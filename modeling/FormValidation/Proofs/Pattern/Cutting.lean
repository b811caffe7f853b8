import FormValidation.Pattern

/-!
# Where delimited patterns are cut

A delimited text is cut behind its opening delimiter (`FieldPattern.Opens`) and at the last closing one
(`FieldPattern.splitAtLast_append`). Texts are stored as bytes, so a cut is made at a number of bytes, and it can only be
made where one character ends and the next one starts. The second part takes a text apart in this way, step by step: the
opening delimiter is looked for behind the first byte, the last closing one is found as an offset, and the flags start
behind its bytes. Each of these cuts is possible and the opening delimiter is always there, so this reading gives what
`FieldPattern.translate` gives (`FieldPattern.translateAtOffsets_eq`).
-/

set_option autoImplicit false

namespace FormValidation

namespace FieldPattern

/-! ## Opening delimiters -/

/-- The text is delimited: it opens with a delimiter, behind which stands a rest. -/
inductive Opens : List Char → Char → List Char → Prop
  | slash (rest : List Char) : Opens ('/' :: rest) '/' rest
  | letter {d : Char} (rest : List Char) (halphanumeric : Text.isAlphanumeric d = false)
    (hblank : Text.isBlank d = false) (hunderscore : d ≠ '_') : Opens ('m' :: d :: rest) d rest

variable {s rest : List Char} {d c : Char}

/-- A pattern is opened by a character that is neither a letter or digit nor a blank nor the underscore. -/
theorem isOpener_iff : isOpener c = true ↔ Text.isAlphanumeric c = false ∧ Text.isBlank c = false ∧ c ≠ '_' := by
  simp [isOpener, and_assoc]

/-- What is found to open a pattern opens it. -/
theorem opening?_eq_some_iff : opening? s = some (d, rest) ↔ Opens s d rest := by
  constructor
  · intro h
    fun_cases opening? s with
    | case1 rest =>
      cases h
      exact .slash rest
    | case2 c rest hopener =>
      rw [opening?, if_pos hopener] at h
      cases h
      obtain ⟨halphanumeric, hblank, hunderscore⟩ := isOpener_iff.1 hopener
      exact .letter rest halphanumeric hblank hunderscore
    | case3 c rest hopener =>
      rw [opening?, if_neg hopener] at h
      cases h
    | case4 s hslash hletter =>
      rw [opening?] at h
      · cases h
      · exact hslash
      · exact hletter
  · rintro (⟨rest⟩ | ⟨rest, halphanumeric, hblank, hunderscore⟩)
    · rfl
    · rw [opening?, if_pos (isOpener_iff.2 ⟨halphanumeric, hblank, hunderscore⟩)]

/-- Nothing is found exactly when nothing opens a pattern. -/
theorem opening?_eq_none_iff : opening? s = none ↔ ∀ d rest, ¬ Opens s d rest := by
  simp [Option.eq_none_iff_forall_ne_some, opening?_eq_some_iff]

/-- A text is delimited exactly when something opens a pattern in it. -/
theorem isDelimited_iff (text : String) : isDelimited text = true ↔ ∃ d rest, Opens text.toList d rest := by
  simp [isDelimited, Option.isSome_iff_exists, opening?_eq_some_iff]

/-- A text opens in one way only. -/
theorem Opens.unique {d' : Char} {rest' : List Char} (h : Opens s d rest) (h' : Opens s d' rest') :
    d = d' ∧ rest = rest' := by
  have heq : some (d, rest) = some (d', rest') := (opening?_eq_some_iff.2 h).symm.trans (opening?_eq_some_iff.2 h')
  exact Prod.mk.inj (Option.some.inj heq)

/-! ## The last closing delimiter -/

/-- A text without the character is not split at it. -/
theorem splitAtLast_of_not_mem (h : c ∉ s) : splitAtLast c s = none := by
  induction s with
  | nil => rfl
  | cons x rest ih =>
    have hrest : c ∉ rest := fun hmem => h (List.mem_cons_of_mem x hmem)
    have hx : x ≠ c := fun heq => h (heq ▸ List.mem_cons_self)
    rw [splitAtLast, ih hrest]
    exact if_neg hx

/-- A text is cut at the occurrence behind which there is no other one. -/
theorem splitAtLast_append (body : List Char) {letters : List Char} (h : c ∉ letters) :
    splitAtLast c (body ++ c :: letters) = some (body, letters) := by
  induction body with
  | nil =>
    rw [List.nil_append, splitAtLast, splitAtLast_of_not_mem h]
    exact if_pos rfl
  | cons x body ih => rw [List.cons_append, splitAtLast, ih]

/-- A text with the character has a last one. -/
theorem exists_last_of_mem (h : c ∈ s) : ∃ body letters, s = body ++ c :: letters ∧ c ∉ letters := by
  obtain ⟨behind, before, hreverse, hfirst⟩ := List.eq_append_cons_of_mem (List.mem_reverse.2 h)
  refine ⟨before.reverse, behind.reverse, ?_, fun hmem => hfirst (List.mem_reverse.1 hmem)⟩
  rw [← List.reverse_reverse s, hreverse]
  simp

end FieldPattern

/-! ## Byte offsets -/

namespace Text

/-- The part of a text before a byte offset, if the text can be cut there. -/
def before? (s : String) (offset : Nat) : Option String :=
  if h : String.Pos.Raw.isValid s ⟨offset⟩ = true then
    some (s.sliceTo (s.pos ⟨offset⟩ (String.Pos.Raw.isValid_eq_true_iff.1 h))).copy
  else none

/-- The part of a text from a byte offset on, if the text can be cut there. -/
def behind? (s : String) (offset : Nat) : Option String :=
  if h : String.Pos.Raw.isValid s ⟨offset⟩ = true then
    some (s.sliceFrom (s.pos ⟨offset⟩ (String.Pos.Raw.isValid_eq_true_iff.1 h))).copy
  else none

/-- The byte offset of the last occurrence of a character. -/
def lastOffset? (c : Char) : List Char → Option Nat
  | [] => none
  | x :: rest =>
    match lastOffset? c rest with
    | some offset => some (x.utf8Size + offset)
    | none => if x = c then some 0 else none

/-- The end of a text is a place of every text that begins with it. -/
theorem isValid_append (s t : String) : String.Pos.Raw.isValid (s ++ t) ⟨s.utf8ByteSize⟩ = true :=
  String.Pos.Raw.isValid_eq_true_iff.2 (String.Pos.Raw.isValid_iff_exists_append.2 ⟨s, t, rfl, rfl⟩)

/-- At this place the longer text is split into the first one and the rest. -/
theorem splits_append (s t : String) :
    ((s ++ t).pos ⟨s.utf8ByteSize⟩ (String.Pos.Raw.isValid_eq_true_iff.1 (isValid_append s t))).Splits s t :=
  ⟨rfl, rfl⟩

/-- Between two texts that are put together the whole can be cut. -/
theorem before?_append (s t : String) : before? (s ++ t) s.utf8ByteSize = some s := by
  rw [before?, dif_pos (isValid_append s t), (splits_append s t).copy_sliceTo_eq]

/-- Behind this place stands the rest. -/
theorem behind?_append (s t : String) : behind? (s ++ t) s.utf8ByteSize = some t := by
  rw [behind?, dif_pos (isValid_append s t), (splits_append s t).copy_sliceFrom_eq]

/-- A text is cut behind its first character by the size of that character. -/
theorem behind?_ofList_cons (c : Char) (s : List Char) :
    behind? (String.ofList (c :: s)) c.utf8Size = some (String.ofList s) := by
  rw [String.ofList_cons, ← String.utf8ByteSize_singleton]
  exact behind?_append _ _

/-- The last offset of a character is the length of what stands before its last occurrence. -/
theorem lastOffset?_eq (c : Char) (s : List Char) :
    lastOffset? c s = (FieldPattern.splitAtLast c s).map fun cut => (String.ofList cut.1).utf8ByteSize := by
  induction s with
  | nil => rfl
  | cons x rest ih =>
    rw [lastOffset?, ih, FieldPattern.splitAtLast]
    cases FieldPattern.splitAtLast c rest with
    | some cut => simp
    | none => by_cases hx : x = c <;> simp [hx]

end Text

namespace FieldPattern

/-- Why a reading at byte offsets fails. -/
inductive OffsetFault where
  | pattern (fault : PatternFault)
  | missingDelimiter
  | badOffset (offset : Nat)
  deriving DecidableEq, Repr

/-- The result of a cut at a byte offset. -/
def cutAt (cut : String → Nat → Option String) (s : String) (offset : Nat) : Except OffsetFault String :=
  match cut s offset with
  | none => .error (.badOffset offset)
  | some part => .ok part

/-- The opening delimiter of a delimited text, which stands behind the first byte unless the text opens with a slash. -/
def openingAtOffset (text : String) : Except OffsetFault (Char × String) := do
  let rest ← cutAt Text.behind? text 1
  if text.toList.head? = some '/' then return ('/', rest)
  match rest.toList with
  | [] => .error .missingDelimiter
  | d :: rest => return (d, String.ofList rest)

/-- The expression that a text stands for, where the text is cut at byte offsets. -/
def translateAtOffsets (text : String) : Except OffsetFault String := do
  if !isDelimited text then return text
  let (opener, rest) ← openingAtOffset text
  let closer := closerOf opener
  match Text.lastOffset? closer rest.toList with
  | none => .error (.pattern .unterminated)
  | some last =>
    let body ← cutAt Text.before? rest last
    let letters ← cutAt Text.behind? rest (last + closer.utf8Size)
    let flags ← (inlineFlags [] letters.toList).mapError .pattern
    return String.ofList (withFlags flags body.toList)

/-- The opening delimiter is found. -/
theorem openingAtOffset_eq {text : String} {d : Char} {rest : List Char} (h : Opens text.toList d rest) :
    openingAtOffset text = .ok (d, String.ofList rest) := by
  obtain ⟨s, rfl⟩ : ∃ s, text = String.ofList s := ⟨text.toList, String.ofList_toList.symm⟩
  rw [String.toList_ofList] at h
  unfold openingAtOffset
  cases h with
  | slash =>
    have hcut : Text.behind? (String.ofList ('/' :: rest)) 1 = some (String.ofList rest) :=
      Text.behind?_ofList_cons '/' rest
    rw [cutAt, hcut, String.toList_ofList]
    rfl
  | letter =>
    have hcut : Text.behind? (String.ofList ('m' :: d :: rest)) 1 = some (String.ofList (d :: rest)) :=
      Text.behind?_ofList_cons 'm' (d :: rest)
    rw [cutAt, hcut, String.toList_ofList]
    simp [bind, Except.bind, pure, Except.pure]

/-- A rest with a closing delimiter can be cut before it and behind it. -/
theorem cutAt_last (c : Char) (body letters : List Char) :
    let rest := String.ofList (body ++ c :: letters)
    let last := (String.ofList body).utf8ByteSize
    cutAt Text.before? rest last = .ok (String.ofList body) ∧
      cutAt Text.behind? rest (last + c.utf8Size) = .ok (String.ofList letters) := by
  intro rest last
  have hbefore : rest = String.ofList body ++ String.ofList (c :: letters) := String.ofList_append
  have hbehind : rest = String.ofList (body ++ [c]) ++ String.ofList letters := by
    rw [← String.ofList_append, List.append_assoc, List.singleton_append]
  have hsize : last + c.utf8Size = (String.ofList (body ++ [c])).utf8ByteSize := by
    rw [String.ofList_append, String.utf8ByteSize_append, ← String.singleton_eq_ofList, String.utf8ByteSize_singleton]
  constructor
  · rw [cutAt, hbefore, Text.before?_append]
  · rw [cutAt, hsize, hbehind, Text.behind?_append]

/-- No cut is made outside a text or inside a character, no opening delimiter is missing, and the reading at byte
offsets ends as the reading by characters does. -/
theorem translateAtOffsets_eq (text : String) : translateAtOffsets text = (translate text).mapError .pattern := by
  by_cases hdelimited : isDelimited text = true
  · obtain ⟨d, rest, hopens⟩ := (isDelimited_iff text).1 hdelimited
    unfold translateAtOffsets translate translateChars
    rw [hdelimited, openingAtOffset_eq hopens, opening?_eq_some_iff.2 hopens]
    simp only [bind, Except.bind, Bool.not_true, Bool.false_eq_true, if_false, String.toList_ofList, Text.lastOffset?_eq]
    by_cases hclose : closerOf d ∈ rest
    · obtain ⟨body, letters, rfl, hlast⟩ := exists_last_of_mem hclose
      obtain ⟨hbefore, hbehind⟩ := cutAt_last (closerOf d) body letters
      rw [splitAtLast_append body hlast]
      simp only [Option.map_some, hbefore, hbehind, String.toList_ofList]
      cases inlineFlags [] letters <;> rfl
    · rw [splitAtLast_of_not_mem hclose]
      rfl
  · have hplain : opening? text.toList = none := by
      rw [opening?_eq_none_iff]
      exact fun d rest hopens => hdelimited ((isDelimited_iff text).2 ⟨d, rest, hopens⟩)
    rw [Bool.not_eq_true] at hdelimited
    unfold translateAtOffsets translate translateChars
    rw [hdelimited, hplain, Bool.not_false, if_pos rfl]
    dsimp only [Except.mapError]
    rw [String.ofList_toList]
    rfl

end FieldPattern

end FormValidation
