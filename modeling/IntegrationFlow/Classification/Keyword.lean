import IntegrationFlow.Target
import IntegrationFlow.Text.Basic

/-!
# Keywords

Where no table knows a source type, the words in it tell what it does. A text is cut into words at
punctuation and at the humps of mixed case, and rules are tried in order on the words.
-/

namespace IntegrationFlow.Classification

/-! ### Words -/

/-- Whether a new word begins at `c`: it is uppercase and follows a lowercase character or a
digit, or it is the last capital of a run of them. -/
def isHump (previous : Option Char) (c : Char) (next : Option Char) : Bool :=
  match previous with
  | none => false
  | some p =>
    Text.isUppercase c &&
      (Text.isLowercase p || p.isDigit || (Text.isUppercase p && next.any Text.isLowercase))

/-- A finished word, unless it is empty. -/
def finished (word : List Char) : List (List Char) := if word.isEmpty then [] else [word]

/-- The words of the characters after `previous`, the first of them begun with `word`. -/
def wordsFrom (previous : Option Char) (word : List Char) : List Char → List (List Char)
  | [] => finished word
  | c :: cs =>
    if !Text.isAlphanumeric c then finished word ++ wordsFrom (some c) [] cs
    else if isHump previous c cs.head? then
      finished word ++ wordsFrom (some c) (Text.lowerChar c) cs
    else wordsFrom (some c) (word ++ Text.lowerChar c) cs

/-- The words of a text, in lower case. -/
def tokenize (s : String) : List String := (wordsFrom none [] s.toList).map String.ofList

/-- The letters and numbers of a text in lower case, so that `IN-ARRAY`, `in_array` and `inArray`
are one key. -/
def foldKey (s : String) : String :=
  String.ofList ((s.toList.filter Text.isAlphanumeric).flatMap Text.lowerChar)

/-! ### Rules -/

/-- A rule: a word that matches a keyword selects the target. -/
structure KeywordRule where
  name : String
  keywords : List String
  target : TargetType
  deriving Repr

/-- Whether a word is a keyword or, for keywords of at least five bytes, holds one. -/
def matchesKeyword (word keyword : String) : Bool :=
  word == keyword || (5 ≤ keyword.utf8ByteSize && Text.hasPart keyword word)

/-- Whether a rule applies to some word. -/
def KeywordRule.applies (rule : KeywordRule) (words : List String) : Bool :=
  words.any fun word => rule.keywords.any (matchesKeyword word)

/-- The first rule that applies. -/
def firstRule? (rules : List KeywordRule) (words : List String) : Option KeywordRule :=
  rules.find? fun rule => rule.applies words

/-- The rules in use, the most telling first. -/
def standardRules : List KeywordRule :=
  [{ name := "logging"
     keywords :=
       ["log", "logger", "logging", "debuglog", "audit", "trace"]
     target := .logger },
   { name := "scripting"
     keywords :=
       ["script", "groovy", "javascript", "js", "python", "eval"]
     target := .script },
   { name := "mapping"
     keywords :=
       ["transform", "map", "mapping", "mapper", "dataweave", "xslt"]
     target := .messageMapping },
   { name := "encoding"
     keywords :=
       ["encode", "decode", "base64", "encrypt", "decrypt", "sign", "gzip", "zip", "compress"]
     target := .encoder },
   { name := "conversion"
     keywords :=
       ["convert", "converter", "csv", "serialize", "deserialize", "tojson", "toxml"]
     target := .converter },
   { name := "routing"
     keywords :=
       ["choice", "decision", "branch", "route", "router", "switch", "when"]
     target := .router },
   { name := "splitting"
     keywords :=
       ["split", "splitter", "foreach", "iterate", "each"]
     target := .splitter },
   { name := "gathering"
     keywords :=
       ["gather", "aggregate", "aggregator", "collect", "combine"]
     target := .gather },
   { name := "joining"
     keywords :=
       ["join"]
     target := .join },
   { name := "fan-out"
     keywords :=
       ["scatter", "multicast", "broadcast", "fork", "parallel"]
     target := .multicast },
   { name := "filtering"
     keywords :=
       ["filter", "validate", "validation", "validator"]
     target := .filter },
   { name := "looping"
     keywords :=
       ["loop", "repeat", "until", "retry", "while"]
     target := .loopingProcessCall },
   { name := "persistence"
     keywords :=
       ["db", "database", "sql", "jdbc", "select", "insert", "update", "delete", "store",
        "persist", "datastore"]
     target := .dataStore },
   { name := "request-reply"
     keywords :=
       ["http", "https", "request", "rest", "soap", "api", "client", "consume", "webservice",
        "listener"]
     target := .requestReply },
   { name := "sending"
     keywords :=
       ["publish", "send", "produce", "write", "jms", "amqp", "kafka", "mq", "sftp", "ftp",
        "smtp", "email", "mail", "notify"]
     target := .send },
   { name := "process-call"
     keywords :=
       ["call", "ref", "invoke", "subprocess", "subflow", "flowref", "processcall"]
     target := .processCall },
   { name := "content-modification"
     keywords :=
       ["set", "enrich", "enricher", "header", "property", "properties", "variable", "payload",
        "modify", "modifier", "remove", "copy", "assign"]
     target := .contentModifier }]

end IntegrationFlow.Classification
