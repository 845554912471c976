import Mathlib
import IntegrationFlow.Proofs.Element
import IntegrationFlow.Xml.Document

/-!
# Where elements stand in a text

The span of an element that was read is the part of the text from its tag to where it was closed, be
it by its own end tag, by an outer one or by the end of the text. While a text is read, the open
elements begin one after the other, and what an open element holds lies between its tag and the
place reached so far, or the tag of the element that is open in it. Each token keeps this, and so
the spans of the finished tree are nested.
-/

namespace IntegrationFlow.Xml

open Text

/-! ### Tokens -/

/-- The characters that a token was cut from, as far as tags need them. -/
def Token.IsCutFrom : Token → List Char → Prop
  | .opening content, part => part = '<' :: (content ++ ['>'])
  | .empty content, part => part = '<' :: (content ++ ['/', '>'])
  | .closing _, part => ∃ content, part = '<' :: content
  | .broken _, _ => False
  | _, _ => True

/-- Reading stops here. -/
def Lexeme.Stops (l : Lexeme) : Prop := (∃ fault, l.token = .broken fault) ∧ l.rest = []

/-- A lexeme is the beginning of some characters. -/
def Lexeme.Cuts (l : Lexeme) (cs : List Char) : Prop :=
  ∃ part, cs = part ++ l.rest ∧ byteSize part = l.width ∧ l.token.IsCutFrom part

/-- A letter in either case is one byte. -/
lemma utf8Size_of_toUpper_eq {p c : Char} (hp : p.isUpper) (h : p.toUpper = c.toUpper) :
    c.utf8Size = 1 := by
  have hself : p.toUpper = p := by
    rw [Char.toUpper, dif_neg]
    simp [Char.isUpper, UInt32.le_iff_toNat_le] at hp ⊢
    omega
  have hle : c.val ≤ 127 := by
    rw [hself, Char.toUpper] at h
    split at h
    · rename_i hlower
      exact UInt32.le_trans hlower.2 (by decide)
    · rw [← h]
      exact UInt32.le_trans (of_decide_eq_true hp).2 (by decide)
  rw [Char.utf8Size]
  exact if_pos hle

lemma exists_of_dropHeadAnyCase? {part cs rest : List Char} (hpart : ∀ c ∈ part, c.isUpper)
    (h : dropHeadAnyCase? part cs = some rest) :
    ∃ head, cs = head ++ rest ∧ byteSize head = part.length := by
  induction part generalizing cs with
  | nil => exact ⟨[], by simpa [dropHeadAnyCase?] using h, rfl⟩
  | cons p ps ih =>
    obtain ⟨hp, hps⟩ := List.forall_mem_cons.mp hpart
    cases cs with
    | nil => simp [dropHeadAnyCase?] at h
    | cons c cs =>
      rw [dropHeadAnyCase?] at h
      split at h
      · rename_i hcase
        obtain ⟨head, rfl, hsize⟩ := ih hps h
        refine ⟨c :: head, rfl, ?_⟩
        rw [byteSize, hsize, utf8Size_of_toUpper_eq hp hcase, List.length_cons, Nat.add_comm]
      · simp at h

lemma exists_of_splitAtMark {head mark cs content rest : List Char}
    (h : (Text.dropHead? head cs).bind (splitAtMark mark) = some (content, rest)) :
    cs = head ++ (content ++ mark ++ rest) := by
  obtain ⟨tail, htail, hsplit⟩ := Option.bind_eq_some_iff.mp h
  rw [Text.dropHead?_eq_some.mp htail, eq_of_splitAtMark hsplit]

/-- What is between two marks is cut with them. -/
lemma cuts_between (before content after rest : List Char) {n : ℕ}
    (hn : byteSize before + byteSize after = n) {token : Token}
    (htoken : token.IsCutFrom (before ++ content ++ after)) :
    Lexeme.Cuts ⟨token, n + byteSize content, rest⟩ (before ++ (content ++ after ++ rest)) := by
  refine ⟨before ++ content ++ after, by simp, ?_, htoken⟩
  rw [byteSize_append, byteSize_append, ← hn]
  exact Nat.add_right_comm ..

lemma lexBang_cuts (cs : List Char) :
    (lexBang cs).Stops ∨ (lexBang cs).Cuts ('<' :: '!' :: cs) := by
  unfold lexBang
  split
  · split
    · rename_i content rest h
      rw [exists_of_splitAtMark h]
      exact .inr (cuts_between "<![CDATA[".toList content _ rest (by decide +kernel) trivial)
    · exact .inl ⟨⟨_, rfl⟩, rfl⟩
  · split
    · rename_i content rest h
      rw [exists_of_splitAtMark h]
      exact .inr (cuts_between "<!--".toList content _ rest (by decide +kernel) trivial)
    · exact .inl ⟨⟨_, rfl⟩, rfl⟩
  · split
    · split
      · rename_i content rest h
        obtain ⟨tail, htail, hsplit⟩ := Option.bind_eq_some_iff.mp h
        obtain ⟨head, hcs, hsize⟩ := exists_of_dropHeadAnyCase? (by simp [Char.isUpper]) htail
        have hopen : byteSize ('<' :: '!' :: head) + byteSize ['>'] = 10 := by
          simp only [byteSize, hsize]
          decide +kernel
        have heq : '<' :: '!' :: (head ++ (content ++ '>' :: rest))
            = '<' :: '!' :: head ++ (content ++ ['>'] ++ rest) := by simp
        rw [hcs, eq_of_splitAtBalance hsplit, heq]
        exact .inr (cuts_between _ content _ rest hopen (by split <;> trivial))
      · exact .inl ⟨⟨_, rfl⟩, rfl⟩
    · exact .inl ⟨⟨_, rfl⟩, rfl⟩
  · exact .inl ⟨⟨_, rfl⟩, rfl⟩

lemma lexInstruction_cuts (cs : List Char) :
    (lexInstruction cs).Stops ∨ (lexInstruction cs).Cuts ('<' :: '?' :: cs) := by
  unfold lexInstruction
  split
  · exact .inl ⟨⟨_, rfl⟩, rfl⟩
  · split
    · rename_i content rest h
      rw [eq_of_splitAtMark h]
      exact .inr (cuts_between "<?".toList content _ rest (by decide +kernel) trivial)
    · exact .inl ⟨⟨_, rfl⟩, rfl⟩

lemma lexTag_cuts (cs : List Char) : (lexTag cs).Stops ∨ (lexTag cs).Cuts ('<' :: cs) := by
  unfold lexTag
  split
  · exact .inl ⟨⟨_, rfl⟩, rfl⟩
  · rename_i content rest h
    have hcs : cs = content ++ ['>'] ++ rest := by simp [eq_of_splitAtTagEnd h]
    rw [hcs]
    refine .inr (cuts_between ['<'] content _ rest (by decide +kernel) ?_)
    split
    · exact ⟨_, rfl⟩
    · split
      · rename_i hslash
        have hlast := List.dropLast_append_getLast? _ hslash
        change ['<'] ++ content ++ ['>'] = _
        nth_rewrite 1 [← hlast]
        simp
      · rfl

lemma lexMarkup_cuts (cs : List Char) :
    (lexMarkup cs).Stops ∨ (lexMarkup cs).Cuts ('<' :: cs) := by
  unfold lexMarkup
  split
  · exact lexBang_cuts _
  · exact lexInstruction_cuts _
  · exact lexTag_cuts _

/-- A token is cut off after white space, unless reading stops. -/
lemma exists_of_lex? {cs : List Char} {l : Lexeme} (h : lex? cs = some l) :
    l.Stops ∨ ∃ gap part, cs = gap ++ part ++ l.rest ∧ (∀ c ∈ gap, isMarkupSpace c) ∧
      byteSize (gap ++ part) = l.width ∧ l.token.IsCutFrom part := by
  have hsplit := List.takeWhile_append_dropWhile (p := isMarkupSpace) (l := cs)
  have hgap : ∀ c ∈ cs.takeWhile isMarkupSpace, isMarkupSpace c :=
    fun c hc => List.mem_takeWhile_imp hc
  unfold lex? at h
  simp only at h
  split at h
  · simp at h
  · rename_i rest hrest
    cases h
    rw [hrest] at hsplit
    rcases lexMarkup_cuts rest with hstops | ⟨part, hpart, hwidth, hcut⟩
    · exact .inl hstops
    · refine .inr ⟨_, part, ?_, hgap, ?_, hcut⟩
      · rw [List.append_assoc, ← hpart, hsplit]
      · rw [byteSize_append, hwidth]
  · cases h
    refine .inr ⟨_, (cs.dropWhile isMarkupSpace).takeWhile (· != '<'), ?_, hgap, ?_, trivial⟩
    · rw [List.append_assoc, List.takeWhile_append_dropWhile, hsplit]
    · rw [byteSize_append]

/-- The first `<` is found. -/
lemma tagStart_append (seen : List Char) {cs : List Char} (hcs : '<' ∉ cs) (rest : List Char) :
    tagStart (seen ++ cs ++ '<' :: rest) (byteSize seen) = byteSize (seen ++ cs) := by
  have hne : ∀ c ∈ cs, (c != '<') = true := by
    intro c hc
    rw [bne_iff_ne]
    rintro rfl
    exact hcs hc
  have htake : (cs ++ '<' :: rest).takeWhile (· != '<') = cs := by
    rw [List.takeWhile_append_of_pos hne]
    simp
  rw [tagStart, List.append_assoc, dropBytes?_append]
  simp only [htake, byteSize_append]
  rw [if_pos (by simp)]

lemma notMem_of_isMarkupSpace {gap : List Char} (hgap : ∀ c ∈ gap, isMarkupSpace c) :
    '<' ∉ gap := by
  intro hmem
  simpa [isMarkupSpace] using hgap '<' hmem

/-- After white space a tag is found. -/
lemma tagStart_eq (seen : List Char) {gap : List Char} (hgap : ∀ c ∈ gap, isMarkupSpace c)
    (rest : List Char) :
    tagStart (seen ++ gap ++ '<' :: rest) (byteSize seen) = byteSize (seen ++ gap) :=
  tagStart_append seen (notMem_of_isMarkupSpace hgap) rest

/-! ### Elements and open elements -/

/-- Characters hold a tag of a name that begins at byte `start`. -/
def Begins (seen : List Char) (start : ℕ) (name : String) : Prop :=
  ∃ before, byteSize before = start ∧ before ++ '<' :: name.toList <+: seen

/-- Elements have spans that lie one after the other between two bytes. -/
structure InRow (start stop : ℕ) (es : List Element) : Prop where
  within : ∀ e ∈ es, ∃ span, e.span = some span ∧ start < span.start ∧ span.stop ≤ stop
  ordered : es.Pairwise fun e e' => ∀ span ∈ e.span, ∀ span' ∈ e'.span, span.stop ≤ span'.start

/-- The span of an element begins with its tag, and those of its children lie in it in a row. -/
def WellPlaced (text : List Char) (e : Element) : Prop :=
  ∃ span seen, e.span = some span ∧ seen <+: text ∧ span.stop = byteSize seen ∧
    Begins seen span.start e.name ∧ InRow span.start span.stop (elementsIn e.children)

section Row

variable {start stop : ℕ} {es : List Element}

lemma inRow_nil (start stop : ℕ) : InRow start stop [] := ⟨by simp, .nil⟩

lemma InRow.mono {stop' : ℕ} (h : InRow start stop es) (hle : stop ≤ stop') :
    InRow start stop' es := by
  refine ⟨fun e he => ?_, h.ordered⟩
  obtain ⟨span, hspan, hstart, hstop⟩ := h.within e he
  exact ⟨span, hspan, hstart, hstop.trans hle⟩

/-- A row is continued by an element that begins after it. -/
lemma InRow.concat (h : InRow start stop es) {e : Element} {start' stop' : ℕ}
    (hspan : e.span = some ⟨start', stop'⟩) (hstart : start < start') (hle : stop ≤ start')
    (hlt : start' < stop') : InRow start stop' (es ++ [e]) := by
  constructor
  · intro x hx
    rcases List.mem_append.mp hx with hx | hx
    · exact (h.mono (hle.trans hlt.le)).within x hx
    · obtain rfl := List.mem_singleton.mp hx
      exact ⟨_, hspan, hstart, le_rfl⟩
  · refine List.pairwise_append.mpr ⟨h.ordered, List.pairwise_singleton .., ?_⟩
    intro x hx y hy
    obtain rfl := List.mem_singleton.mp hy
    obtain ⟨span', hspan', -, hstop⟩ := h.within x hx
    rw [hspan, hspan']
    rintro _ ⟨⟩ _ ⟨⟩
    exact hstop.trans hle

end Row

section Begins

variable {seen seen' : List Char} {start : ℕ} {name : String}

lemma Begins.mono (h : Begins seen start name) (hseen : seen <+: seen') :
    Begins seen' start name := by
  obtain ⟨before, hbefore, hprefix⟩ := h
  exact ⟨before, hbefore, hprefix.trans hseen⟩

lemma Begins.lt (h : Begins seen start name) : start < byteSize seen := by
  obtain ⟨before, rfl, hprefix⟩ := h
  have hle := byteSize_mono hprefix
  have hpos := Char.utf8Size_pos '<'
  rw [byteSize_append, byteSize] at hle
  omega

end Begins

/-- What is known of an open element when byte `stop` is reached: its tag has been read, and what it
holds lies between the tag and `stop`. -/
structure OpenElement.Sound (text seen : List Char) (stop : ℕ) (o : OpenElement) : Prop where
  start_lt : o.start < stop
  begins : Begins seen o.start o.name
  row : InRow o.start stop (elementsIn o.children)
  placed : ∀ e ∈ descendantsIn o.children, WellPlaced text e

/-- Open elements, innermost first, each of which holds nothing after the tag of the one before. -/
def Stacked (text seen : List Char) : ℕ → List OpenElement → Prop
  | _, [] => True
  | stop, o :: os => o.Sound text seen stop ∧ Stacked text seen o.start os

lemma Stacked.mono {text seen seen' : List Char} {stop stop' : ℕ} {os : List OpenElement}
    (h : Stacked text seen stop os) (hseen : seen <+: seen') (hle : stop ≤ stop') :
    Stacked text seen' stop' os := by
  induction os generalizing stop stop' with
  | nil => trivial
  | cons o os ih =>
    obtain ⟨ho, hos⟩ := h
    exact ⟨⟨ho.start_lt.trans_le hle, ho.begins.mono hseen, ho.row.mono hle, ho.placed⟩,
      ih hos le_rfl⟩

namespace Reading

/-- What is known when the characters `seen` of a text have been read and what is complete ends
before byte `stop`. -/
structure Sound (text seen : List Char) (stop : ℕ) (r : Reading) : Prop where
  stacked : Stacked text seen stop r.opened
  rooted : ∀ root ∈ r.root, ∀ e ∈ root :: root.descendants, WellPlaced text e

variable {text seen seen' : List Char} {stop stop' : ℕ} {r : Reading}

lemma Sound.mono (h : r.Sound text seen stop) (hseen : seen <+: seen') (hle : stop ≤ stop') :
    r.Sound text seen' stop' :=
  ⟨h.stacked.mono hseen hle, h.rooted⟩

lemma Sound.ite {r' : Reading} (p : Prop) [Decidable p] (h : r.Sound text seen stop)
    (h' : r'.Sound text seen stop) : (if p then r else r').Sound text seen stop := by
  split
  · exact h
  · exact h'

lemma Sound.report (h : r.Sound text seen stop) (fault : Fault) (offset : Option ℕ) :
    (r.report fault offset).Sound text seen stop :=
  ⟨h.stacked, h.rooted⟩

/-- A complete element is put after what is there. -/
lemma Sound.attach (h : r.Sound text seen stop) {e : Element} {start' stop' : ℕ}
    (hspan : e.span = some ⟨start', stop'⟩) (hle : stop ≤ start') (hlt : start' < stop')
    (he : ∀ x ∈ e :: e.descendants, WellPlaced text x) :
    (r.attach e).Sound text seen stop' := by
  rw [Reading.attach]
  split
  · rename_i o os hopened
    obtain ⟨ho, hos⟩ := hopened ▸ h.stacked
    refine ⟨⟨⟨?_, ho.begins, ?_, ?_⟩, hos⟩, h.rooted⟩
    · exact ho.start_lt.trans (hle.trans_lt hlt)
    · rw [elementsIn_append]
      exact ho.row.concat hspan (ho.start_lt.trans_le hle) hle hlt
    · intro x hx
      rw [descendantsIn_append, List.mem_append] at hx
      rcases hx with hx | hx
      · exact ho.placed x hx
      · exact he x (by simpa [descendantsIn] using hx)
  · rename_i hopened
    have hnone : Stacked text seen stop' r.opened := hopened ▸ trivial
    split
    · refine ⟨hnone, ?_⟩
      rintro _ ⟨⟩
      exact he
    · exact ⟨hnone, h.rooted⟩

/-- An element that is closed where reading has come to is in its place. -/
lemma wellPlaced_close {o : OpenElement} (ho : o.Sound text seen (byteSize seen))
    (hseen : seen <+: text) : WellPlaced text (o.close (byteSize seen)) :=
  ⟨⟨o.start, byteSize seen⟩, seen, rfl, hseen, rfl, ho.begins, ho.row⟩

lemma wellPlaced_of_children_eq_nil {e : Element} {start : ℕ} (hchildren : e.children = [])
    (hspan : e.span = some ⟨start, byteSize seen⟩) (hseen : seen <+: text)
    (hbegins : Begins seen start e.name) : ∀ x ∈ e :: e.descendants, WellPlaced text x := by
  rw [e.descendants_eq, hchildren]
  intro x hx
  obtain rfl := List.mem_singleton.mp hx
  exact ⟨_, seen, hspan, hseen, rfl, hbegins, hchildren ▸ inRow_nil ..⟩

lemma Sound.closeInnermost (h : r.Sound text seen (byteSize seen)) (hseen : seen <+: text) :
    (r.closeInnermost (byteSize seen)).Sound text seen (byteSize seen) := by
  rw [Reading.closeInnermost]
  split
  · exact h
  · rename_i o os hopened
    obtain ⟨ho, hos⟩ := hopened ▸ h.stacked
    have hrest : ({ r with opened := os } : Reading).Sound text seen o.start := ⟨hos, h.rooted⟩
    refine hrest.attach rfl le_rfl ho.start_lt fun x hx => ?_
    rcases List.mem_cons.mp hx with rfl | hx
    · exact wellPlaced_close ho hseen
    · rw [Element.descendants_eq] at hx
      exact ho.placed x hx

lemma Sound.closeImplicitly (h : r.Sound text seen (byteSize seen)) (hseen : seen <+: text)
    (n : ℕ) : (r.closeImplicitly (byteSize seen) n).Sound text seen (byteSize seen) := by
  induction n generalizing r with
  | zero => exact h
  | succ n ih => exact ih ((h.report _ _).closeInnermost hseen)

lemma Sound.closeAll (h : r.Sound text seen (byteSize seen)) (hseen : seen <+: text) (n : ℕ) :
    (r.closeAll (byteSize seen) n).Sound text seen (byteSize seen) := by
  induction n generalizing r with
  | zero => exact h
  | succ n ih => exact ih (h.closeInnermost hseen)

/-- An end tag closes inner elements where it begins and its own element where it ends. -/
lemma Sound.closeNamed (h : r.Sound text seen (byteSize seen)) (hseen : seen <+: seen')
    (htext : seen' <+: text) (name : String) :
    (r.closeNamed name (byteSize seen) (byteSize seen')).Sound text seen' (byteSize seen') := by
  have hle := byteSize_mono hseen
  rw [Reading.closeNamed]
  split
  · rename_i depth _
    have hinner := h.closeImplicitly (hseen.trans htext) depth
    exact (hinner.mono hseen hle).closeInnermost htext
  · exact (h.report _ _).mono hseen hle

lemma Sound.addText (h : r.Sound text seen stop) (s : String) :
    (r.addText s).Sound text seen stop := by
  rw [Reading.addText]
  split
  · exact h
  · rename_i o os hopened
    obtain ⟨ho, hos⟩ := hopened ▸ h.stacked
    split
    · exact h
    · refine ⟨⟨⟨ho.start_lt, ho.begins, ?_, ?_⟩, hos⟩, h.rooted⟩
      · rw [elementsIn_append]
        simpa using ho.row
      · intro x hx
        exact ho.placed x (by simpa [descendantsIn_append, descendantsIn] using hx)

/-- Where a tag has been read, an element of its name begins. -/
lemma begins_tagName (before content rest : List Char) :
    Begins (before ++ '<' :: (content ++ rest)) (byteSize before) (tagName content) := by
  have hname : (tagName content).toList <+: content := by
    rw [tagName, String.toList_ofList]
    exact List.takeWhile_prefix _
  refine ⟨before, rfl, List.prefix_append_right_inj before |>.mpr ?_⟩
  exact List.cons_prefix_cons.mpr ⟨rfl, hname.trans (List.prefix_append ..)⟩

/-- A token keeps what is known. -/
lemma Sound.step (h : r.Sound text seen (byteSize seen)) {gap part rest : List Char}
    (htext : text = seen ++ gap ++ part ++ rest) (hgap : ∀ c ∈ gap, isMarkupSpace c)
    {token : Token} (htoken : token.IsCutFrom part) :
    (r.step text ⟨token, byteSize seen, byteSize (seen ++ gap ++ part)⟩).Sound text
      (seen ++ gap ++ part) (byteSize (seen ++ gap ++ part)) := by
  have hgapped : seen <+: seen ++ gap := List.prefix_append ..
  have hseen : seen <+: seen ++ gap ++ part := hgapped.trans (List.prefix_append ..)
  have hle := byteSize_mono hseen
  have hprefix : seen ++ gap ++ part <+: text := htext ▸ List.prefix_append ..
  -- a tag begins after the white space
  have hstart : ∀ tag, part = '<' :: tag →
      tagStart text (byteSize seen) = byteSize (seen ++ gap) := by
    rintro tag rfl
    rw [htext, List.append_assoc _ _ rest, List.cons_append]
    exact tagStart_eq seen hgap _
  cases token with
  | opening content =>
    have hpart : part = '<' :: (content ++ ['>']) := htoken
    have hbegins := begins_tagName (seen ++ gap) content ['>']
    simp only [Reading.step, hstart _ hpart]
    rw [hpart] at hseen ⊢
    refine ⟨⟨⟨hbegins.lt, hbegins, inRow_nil .., by simp [descendantsIn]⟩, ?_⟩, h.rooted⟩
    exact h.stacked.mono hseen (byteSize_mono hgapped)
  | empty content =>
    have hpart : part = '<' :: (content ++ ['/', '>']) := htoken
    have hbegins := begins_tagName (seen ++ gap) content ['/', '>']
    simp only [Reading.step, hstart _ hpart]
    rw [← hpart] at hbegins
    have hread : (r.reportAttributes (byteSize (seen ++ gap)) (tagAttributes content)).Sound text
        (seen ++ gap ++ part) (byteSize seen) := ⟨h.stacked.mono hseen le_rfl, h.rooted⟩
    exact hread.attach rfl (byteSize_mono hgapped) hbegins.lt
      (wellPlaced_of_children_eq_nil rfl rfl hprefix hbegins)
  | closing name =>
    obtain ⟨content, hpart⟩ := htoken
    simp only [Reading.step, hstart _ hpart]
    exact (h.mono hgapped (byteSize_mono hgapped)).closeNamed (List.prefix_append ..)
      hprefix _
  | text raw =>
    simp only [Reading.step]
    split
    · exact (h.mono hseen hle).addText _
    · exact (h.mono hseen hle).report _ _
  | characterData content => exact (h.mono hseen hle).addText _
  | aside => exact h.mono hseen hle
  | namelessDoctype => exact (h.mono hseen hle).report _ _
  | broken fault => exact htoken.elim

/-- Reading on from where it has come to keeps what is known. -/
lemma Sound.foldl_scan {cs : List Char} (h : r.Sound text seen (byteSize seen))
    (htext : text = seen ++ cs) :
    ∃ seen', seen' <+: text ∧ ((scan (byteSize seen) cs).foldl (Reading.step text) r).Sound text
      seen' (byteSize seen') := by
  generalize hoffset : byteSize seen = offset at *
  fun_induction scan offset cs generalizing seen r with
  | case1 offset cs hlex => exact ⟨seen, htext ▸ List.prefix_append .., hoffset ▸ h⟩
  | case2 offset cs l hlex ih =>
    subst hoffset
    rw [List.foldl_cons]
    rcases exists_of_lex? hlex with ⟨⟨fault, htoken⟩, hrest⟩ | ⟨gap, part, hcs, hgap, hwidth, hcut⟩
    · -- nothing is read after the token that says so
      have hnone : scan (byteSize seen + l.width) l.rest = [] := by
        rw [hrest, scan]
        rfl
      rw [hnone, List.foldl_nil]
      refine ⟨seen, htext ▸ List.prefix_append .., ?_⟩
      simp only [Reading.step, htoken]
      exact h.report _ _
    · have hsize : byteSize seen + l.width = byteSize (seen ++ gap ++ part) := by
        rw [List.append_assoc, byteSize_append seen, hwidth]
      have hparts : text = seen ++ gap ++ part ++ l.rest := by simp [htext, hcs]
      rw [hsize] at ih ⊢
      exact ih hparts rfl (h.step hparts hgap hcut)

end Reading

lemma withoutMark_eq_self {cs : List Char} (h : cs.head? ≠ some (Char.ofNat 0xFEFF)) :
    withoutMark cs = cs := by
  cases cs with
  | nil => rfl
  | cons c cs => exact if_neg fun hc => h (congrArg some hc)

/-- What is read from a text is in its place. -/
lemma wellPlaced_of_read {text : String} (hmark : text.toList.head? ≠ some (Char.ofNat 0xFEFF))
    {root : Element} (hroot : (read text).1 = some root) :
    ∀ e ∈ root :: root.descendants, WellPlaced text.toList e := by
  have hempty : ({} : Reading).Sound text.toList [] (byteSize []) := ⟨trivial, by simp⟩
  obtain ⟨seen, hseen, hread⟩ := hempty.foldl_scan (List.nil_append text.toList).symm
  have hend : Reading.Sound text.toList text.toList (byteSize text.toList)
      ((scan 0 text.toList).foldl (Reading.step text.toList) {}) :=
    hread.mono hseen (byteSize_mono hseen)
  rw [read, withoutMark_eq_self hmark] at hroot
  generalize (scan 0 text.toList).foldl (Reading.step text.toList) {} = r at hend hroot
  have hunclosed := Reading.Sound.ite (isStopped (scan 0 text.toList) ∨ r.opened.length = 0) hend
    (hend.report (.neverClosed r.opened.length) (some (byteSize text.toList)))
  have hclosed := hunclosed.closeAll (List.prefix_refl _) r.opened.length
  exact (hclosed.report .noRoot none |>.ite _ hclosed).rooted root hroot

/-- For a text that does not start with a byte order mark, well-formed or not, every element of its
tree has a span that lies in the text and between characters, and the characters there are `<`, the
name of the element and more. The spans of its children lie in it after its beginning, in order and
disjoint. -/
theorem parse_spans_nested (text document : String)
    (hmark : text.toList.head? ≠ some (Char.ofNat 0xFEFF)) {root : Element}
    (hroot : (parse text document).1 = some root) {e : Element}
    (he : e ∈ root :: root.descendants) :
    ∃ span, e.span = some span ∧ span.start < span.stop ∧
      span.stop ≤ byteSize text.toList ∧
      (∃ before part after, text.toList = before ++ part ++ after ∧
        byteSize before = span.start ∧ byteSize (before ++ part) = span.stop ∧
        slice text span.start span.stop = String.ofList part ∧ '<' :: e.name.toList <+: part) ∧
      (∀ c ∈ e.elements, ∃ inner, c.span = some inner ∧
        span.start < inner.start ∧ inner.stop ≤ span.stop) ∧
      e.elements.Pairwise fun c c' =>
        ∀ inner ∈ c.span, ∀ inner' ∈ c'.span, inner.stop ≤ inner'.start := by
  obtain ⟨⟨start, stop⟩, seen, hspan, hseen, rfl, hbegins, hrow⟩ :=
    wellPlaced_of_read hmark hroot e he
  have hlt := hbegins.lt
  obtain ⟨before, rfl, tail, rfl⟩ := hbegins
  rw [List.append_assoc] at hseen
  obtain ⟨after, htext⟩ := id hseen
  refine ⟨_, hspan, hlt, ?_, ⟨before, '<' :: e.name.toList ++ tail, after, htext.symm, rfl, ?_, ?_,
    List.prefix_append ..⟩, ?_, ?_⟩
  · rw [List.append_assoc]
    exact byteSize_mono hseen
  · rw [List.append_assoc]
  · rw [List.append_assoc]
    exact slice_eq htext.symm
  · rw [Element.elements_eq]
    exact hrow.within
  · rw [Element.elements_eq]
    exact hrow.ordered

/-- A text in which an outer end tag closes an element, and which breaks off in a tag. -/
def brokenText : String := "<r>é<a><b>ü</a><c"

/-- The element of this text that is closed by an outer end tag. -/
def brokenInner : Element := { name := "b", children := [.text "ü"], span := some ⟨8, 13⟩ }

/-- The element around it. -/
def brokenOuter : Element :=
  { name := "a", children := [.element brokenInner], span := some ⟨5, 17⟩ }

/-- The tree of this text, whose root ends where the text does. -/
def brokenTree : Element :=
  { name := "r", children := [.text "é", .element brokenOuter], span := some ⟨0, 19⟩ }

/-- What is known of this text when reading stops. -/
def brokenReading : Reading where
  opened := [⟨"r", [], 0, [.text "é", .element brokenOuter]⟩]
  issues := [⟨.closedImplicitly "b", some 13⟩, ⟨.stopped .unclosedTag, some 17⟩]

lemma parse_brokenText : (parse brokenText "broken.xml").1 = some brokenTree := by
  have hmark : withoutMark brokenText.toList = brokenText.toList := by decide +kernel
  have hread : (scan 0 brokenText.toList).foldl (Reading.step brokenText.toList) {}
      = brokenReading := by cbv
  have hstopped : isStopped (scan 0 brokenText.toList) = true := by cbv
  simp only [parse, read, hmark, hread, hstopped]
  rfl

/-- The element that an outer end tag closes lies in the one that this tag belongs to. -/
theorem brokenText_spans_nested : (parse brokenText "broken.xml").1 = some brokenTree ∧
    slice brokenText 5 17 = "<a><b>ü</a>" ∧
    ∃ inner, brokenInner.span = some inner ∧ 5 < inner.start ∧ inner.stop ≤ 17 := by
  have hmem : brokenOuter ∈ brokenTree :: brokenTree.descendants := by
    simp [brokenTree, Element.descendants, descendantsIn]
  obtain ⟨span, hspan, -, -, -, hchildren, -⟩ :=
    parse_spans_nested brokenText "broken.xml" (by decide +kernel) parse_brokenText hmem
  obtain rfl := Option.some.inj hspan
  exact ⟨parse_brokenText, by decide +kernel,
    hchildren brokenInner (by simp [brokenOuter, Element.elements])⟩

end IntegrationFlow.Xml
