import Mathlib.Data.List.Basic

/-! The colour tools of the admin's markdown editor: `detectColorSpan`, `handleColorSelect` and
`handleRemoveColor`, with positions counted in characters. A text is balanced when every
closing colour tag closes an open span and every span is closed. -/

namespace AuraLogic.MarkdownEditor

/-! ### The regular expressions of `detectColorSpan` -/

/-- JavaScript's `\s`, which is also what `String.prototype.trim` strips. -/
def isJsSpace (c : Char) : Bool :=
  [9, 10, 11, 12, 13, 32, 160, 5760, 8232, 8233, 8239, 8287, 12288, 65279].contains c.toNat ||
    (8192 ≤ c.toNat && c.toNat ≤ 8202)

def jsTrim (s : List Char) : List Char :=
  ((s.dropWhile isJsSpace).reverse.dropWhile isJsSpace).reverse

def openPrefix : List Char := "<span style=\"color:".toList

def closeTag : List Char := "</span>".toList

/-- `<span style="color:\s*([^"]*)">` at the start of `cs`: the captured colour and the text
after the tag. `[^"]*` stops at the first quote, so the tag ends there or nowhere. -/
def matchOpener (cs : List Char) : Option (List Char × List Char) :=
  if openPrefix.isPrefixOf cs then
    let rest := (cs.drop openPrefix.length).dropWhile isJsSpace
    match rest.dropWhile (· ≠ '"') with
    | '"' :: '>' :: after => some (rest.takeWhile (· ≠ '"'), after)
    | _ => none
  else none

/-- `/^<span style="color:\s*([^"]*)">([\s\S]*)<\/span>$/`: the colour and the inner text. -/
def matchFull (selected : List Char) : Option (List Char × List Char) :=
  match matchOpener selected with
  | some (color, rest) =>
    if closeTag.isSuffixOf rest then some (color, rest.take (rest.length - closeTag.length))
    else none
  | none => none

/-- `/<span style="color:\s*([^"]*)">$/`, searched from the left: the colour and the length of
the match, an opening tag that ends the text. -/
def matchOpenerAtEnd (s : List Char) : Option (List Char × Nat) :=
  (List.range (s.length + 1)).findSome? fun p =>
    match matchOpener (s.drop p) with
    | some (color, []) => some (color, s.length - p)
    | _ => none

def isHexDigit (c : Char) : Bool := c.isDigit || ('a' ≤ c && c ≤ 'f') || ('A' ≤ c && c ≤ 'F')

/-- `/^#([0-9a-fA-F]{3}|[0-9a-fA-F]{6})$/`, the test `handleCustomHexApply` makes. -/
def isHexColor (hex : String) : Bool :=
  match hex.toList with
  | '#' :: digits => (digits.length = 3 || digits.length = 6) && digits.all isHexDigit
  | _ => false

theorem quote_not_mem_of_isHexColor {hex : String} (valid : isHexColor hex = true) :
    '"' ∉ hex.toList := by
  unfold isHexColor at valid
  split at valid
  · next digits split =>
    rw [split]
    simp only [Bool.and_eq_true, List.all_eq_true] at valid
    rintro (_ | ⟨_, mem⟩)
    exact absurd (valid.2 _ mem) (by decide)
  · exact absurd valid Bool.false_ne_true

/-! ### The editor -/

structure EditorState where
  doc : List Char
  anchor : Nat
  head : Nat
  anchor_le : anchor ≤ doc.length
  head_le : head ≤ doc.length

def EditorState.fromPos (s : EditorState) : Nat := min s.anchor s.head
def EditorState.toPos (s : EditorState) : Nat := max s.anchor s.head

theorem EditorState.fromPos_le_toPos (s : EditorState) : s.fromPos ≤ s.toPos :=
  Nat.le_trans (Nat.min_le_left _ _) (Nat.le_max_left _ _)

theorem EditorState.toPos_le_length (s : EditorState) : s.toPos ≤ s.doc.length :=
  Nat.max_le.2 ⟨s.anchor_le, s.head_le⟩

def sliceDoc (doc : List Char) (fromPos toPos : Nat) : List Char :=
  (doc.drop fromPos).take (toPos - fromPos)

/-- `view.dispatch({changes: {from, to, insert}, selection: {anchor, head}})`; `none` where
CodeMirror throws a `RangeError`. -/
def dispatch (s : EditorState) (fromPos toPos : Nat) (insert : List Char) (anchor head : Nat) :
    Option EditorState :=
  let doc := s.doc.take fromPos ++ insert ++ s.doc.drop toPos
  if valid : fromPos ≤ toPos ∧ toPos ≤ s.doc.length ∧ anchor ≤ doc.length ∧ head ≤ doc.length then
    some ⟨doc, anchor, head, valid.2.2.1, valid.2.2.2⟩
  else none

structure ColorSpan where
  color : List Char
  inner : List Char
  outerFrom : Nat
  outerTo : Nat

def detectColorSpan (s : EditorState) : Option ColorSpan :=
  let selected := sliceDoc s.doc s.fromPos s.toPos
  match matchFull selected with
  | some (color, inner) => some ⟨jsTrim color, inner, s.fromPos, s.toPos⟩
  | none =>
    let searchBefore := sliceDoc s.doc (s.fromPos - 100) s.fromPos
    match matchOpenerAtEnd searchBefore with
    | some (color, matched) =>
      let searchAfter := sliceDoc s.doc s.toPos (min s.doc.length (s.toPos + 20))
      if closeTag.isPrefixOf searchAfter then
        some ⟨jsTrim color, selected, s.fromPos - matched, s.toPos + closeTag.length⟩
      else none
    | none => none

def openTag (color : String) : List Char := ("<span style=\"color: " ++ color ++ "\">").toList

def handleColorSelect (s : EditorState) (color : String) : Option EditorState :=
  let before := openTag color
  let after := closeTag
  match detectColorSpan s with
  | some existing =>
    let insert := before ++ existing.inner ++ after
    dispatch s existing.outerFrom existing.outerTo insert (existing.outerFrom + before.length)
      (existing.outerFrom + before.length + existing.inner.length)
  | none =>
    let selected := sliceDoc s.doc s.fromPos s.toPos
    let text := if selected = [] then "text".toList else selected
    let insert := before ++ text ++ after
    let cursorFrom := s.fromPos + before.length
    dispatch s s.fromPos s.toPos insert cursorFrom (cursorFrom + text.length)

def handleRemoveColor (s : EditorState) : Option EditorState :=
  match detectColorSpan s with
  | some existing =>
    dispatch s existing.outerFrom existing.outerTo existing.inner existing.outerFrom
      (existing.outerFrom + existing.inner.length)
  | none => some s

/-! ### Colour tags and balance -/

inductive Tag where
  | opener
  | closer
  deriving DecidableEq, Repr

/-- The colour tags of a text, read from the left: an opening tag wherever `matchOpener`
matches, a closing tag wherever `</span>` starts, any other character skipped. Each step
reads at least one character, so the text's length is enough fuel. -/
def scanTags : Nat → List Char → List Tag
  | 0, _ => []
  | _ + 1, [] => []
  | fuel + 1, c :: cs =>
    match matchOpener (c :: cs) with
    | some (_, rest) => .opener :: scanTags fuel rest
    | none =>
      if closeTag.isPrefixOf (c :: cs) then .closer :: scanTags fuel ((c :: cs).drop closeTag.length)
      else scanTags fuel cs

def colorTags (doc : List Char) : List Tag := scanTags doc.length doc

/-- Whether, from `depth` open spans, every closing tag closes one and none is left open. -/
def balancedFrom : Nat → List Tag → Bool
  | depth, [] => depth == 0
  | depth, .opener :: tags => balancedFrom (depth + 1) tags
  | 0, .closer :: _ => false
  | depth + 1, .closer :: tags => balancedFrom depth tags

def Balanced (doc : List Char) : Prop := balancedFrom 0 (colorTags doc) = true

instance : DecidablePred Balanced := fun doc =>
  inferInstanceAs (Decidable (balancedFrom 0 (colorTags doc) = true))

/-! ### Reading the tags -/

theorem closeTag_length : closeTag.length = 7 := rfl

theorem matchOpener_length {cs color rest : List Char} (h : matchOpener cs = some (color, rest)) :
    rest.length < cs.length := by
  unfold matchOpener at h
  split_ifs at h
  dsimp only at h
  split at h
  · next after split =>
    cases h
    have quote := congrArg List.length split
    have shorter := (List.dropWhile_suffix (· ≠ '"')).length_le.trans
      ((List.dropWhile_suffix isJsSpace).length_le.trans (List.drop_suffix openPrefix.length cs).length_le)
    simp only [List.length_cons] at quote
    omega
  · cases h

theorem scanTags_fuel {f₁ f₂ : Nat} {l : List Char} (enough₁ : l.length ≤ f₁) (enough₂ : l.length ≤ f₂) :
    scanTags f₁ l = scanTags f₂ l := by
  induction f₁ generalizing f₂ l with
  | zero => rw [List.eq_nil_of_length_eq_zero (Nat.le_zero.1 enough₁)]; cases f₂ <;> rfl
  | succ n ih =>
    cases f₂ with
    | zero => rw [List.eq_nil_of_length_eq_zero (Nat.le_zero.1 enough₂)]; rfl
    | succ m =>
      cases l with
      | nil => rfl
      | cons c cs =>
        simp only [List.length_cons] at enough₁ enough₂
        simp only [scanTags]
        split
        · next rest opened =>
          have := matchOpener_length opened
          simp only [List.length_cons] at this
          rw [@ih m _ (by omega) (by omega)]
        · have dropped : ((c :: cs).drop closeTag.length).length ≤ cs.length := by
            simp only [List.length_drop, List.length_cons, closeTag_length]; omega
          split
          · rw [@ih m _ (by omega) (by omega)]
          · exact ih (by omega) (by omega)

theorem colorTags_cons (c : Char) (cs : List Char) :
    colorTags (c :: cs) =
      match matchOpener (c :: cs) with
      | some (_, rest) => .opener :: colorTags rest
      | none =>
        if closeTag.isPrefixOf (c :: cs) then .closer :: colorTags ((c :: cs).drop closeTag.length)
        else colorTags cs := by
  rw [colorTags, List.length_cons, scanTags]
  split
  · next rest opened =>
    have := matchOpener_length opened
    simp only [List.length_cons] at this
    rw [colorTags, scanTags_fuel (by omega) le_rfl]
  · split
    · rw [colorTags, scanTags_fuel
        (by simp only [List.length_drop, List.length_cons, closeTag_length]; omega) le_rfl]
    · rfl


theorem openPrefix_eq : openPrefix = '<' :: "span style=\"color:".toList := rfl
theorem closeTag_eq : closeTag = '<' :: "/span>".toList := rfl

theorem matchOpener_of_ne {c : Char} (cs : List Char) (other : c ≠ '<') :
    matchOpener (c :: cs) = none := by
  rw [matchOpener, if_neg]
  simp [openPrefix_eq, List.isPrefixOf, Ne.symm other]

theorem colorTags_of_ne {c : Char} (cs : List Char) (other : c ≠ '<') :
    colorTags (c :: cs) = colorTags cs := by
  rw [colorTags_cons, matchOpener_of_ne cs other]
  simp [closeTag_eq, List.isPrefixOf, Ne.symm other]

theorem colorTags_plain {text : List Char} (rest : List Char) (plain : '<' ∉ text) :
    colorTags (text ++ rest) = colorTags rest := by
  induction text with
  | nil => rfl
  | cons c cs ih =>
    rw [List.mem_cons, not_or] at plain
    rw [List.cons_append, colorTags_of_ne _ (Ne.symm plain.1), ih plain.2]

theorem openTag_eq (color : String) :
    openTag color = openPrefix ++ ' ' :: color.toList ++ ['"', '>'] := by
  simp only [openTag, String.toList, String.data_append]
  rfl

theorem matchOpener_openTag {color : String} (quoteFree : '"' ∉ color.toList) (rest : List Char) :
    matchOpener (openTag color ++ rest) = some (color.toList.dropWhile isJsSpace, rest) := by
  have lead : openTag color ++ rest = openPrefix ++ (' ' :: color.toList ++ '"' :: '>' :: rest) := by
    simp [openTag_eq]
  have spaces : (' ' :: color.toList ++ '"' :: '>' :: rest).dropWhile isJsSpace =
      color.toList.dropWhile isJsSpace ++ '"' :: '>' :: rest := by
    rw [List.cons_append, List.dropWhile_cons_of_pos (by decide), List.dropWhile_append]
    split_ifs with gone
    · rw [List.isEmpty_iff.1 gone]; rfl
    · rfl
  have unquoted : ∀ c ∈ color.toList.dropWhile isJsSpace, decide (c ≠ '"') = true :=
    fun c mem => decide_eq_true fun same => quoteFree (same ▸ (List.dropWhile_sublist _).subset mem)
  rw [matchOpener, lead, if_pos (List.isPrefixOf_iff_prefix.2 (List.prefix_append _ _))]
  simp only [List.drop_left, spaces, List.dropWhile_append_of_pos unquoted,
    List.takeWhile_append_of_pos unquoted]
  simp

theorem colorTags_openTag {color : String} (quoteFree : '"' ∉ color.toList) (rest : List Char) :
    colorTags (openTag color ++ rest) = .opener :: colorTags rest := by
  have head : openTag color ++ rest = '<' :: ("span style=\"color: ".toList ++ color.toList ++ ['"', '>'] ++ rest) := by
    simp [openTag_eq, openPrefix_eq]
  rw [head, colorTags_cons, ← head, matchOpener_openTag quoteFree]

theorem matchOpener_closeTag (rest : List Char) : matchOpener (closeTag ++ rest) = none := by
  rw [matchOpener, if_neg]
  simp [openPrefix_eq, closeTag_eq, List.isPrefixOf]

theorem colorTags_closeTag (rest : List Char) :
    colorTags (closeTag ++ rest) = .closer :: colorTags rest := by
  have head : closeTag ++ rest = '<' :: ("/span>".toList ++ rest) := rfl
  rw [head, colorTags_cons, ← head, matchOpener_closeTag,
    if_pos (List.isPrefixOf_iff_prefix.2 (List.prefix_append _ _)), List.drop_left]

/-! ### Removing the colour of two spans -/

def span (color text : String) : List Char := openTag color ++ text.toList ++ closeTag

theorem colorTags_span {color text : String} (quoteFree : '"' ∉ color.toList)
    (plain : '<' ∉ text.toList) (rest : List Char) :
    colorTags (span color text ++ rest) = .opener :: .closer :: colorTags rest := by
  rw [span, List.append_assoc, List.append_assoc, colorTags_openTag quoteFree,
    colorTags_plain _ plain, colorTags_closeTag]

theorem matchFull_span {color : String} (quoteFree : '"' ∉ color.toList) (inner : List Char) :
    matchFull (openTag color ++ inner ++ closeTag) =
      some (color.toList.dropWhile isJsSpace, inner) := by
  rw [matchFull, List.append_assoc, matchOpener_openTag quoteFree]
  dsimp only
  rw [if_pos (List.isSuffixOf_iff_suffix.2 (List.suffix_append _ _))]
  simp [closeTag_length]

/-- A selection of the whole document, which is one opening tag, any text, and a closing tag:
`detectColorSpan` reads it as one span around that text. -/
theorem detectColorSpan_whole {s : EditorState} {color : String} {inner : List Char}
    (quoteFree : '"' ∉ color.toList) (doc : s.doc = openTag color ++ inner ++ closeTag)
    (whole : s.fromPos = 0 ∧ s.toPos = s.doc.length) :
    detectColorSpan s = some ⟨jsTrim (color.toList.dropWhile isJsSpace), inner, 0, s.doc.length⟩ := by
  have selected : sliceDoc s.doc 0 s.doc.length = s.doc := by
    rw [sliceDoc, List.drop_zero, Nat.sub_zero, List.take_length]
  have full : matchFull s.doc = some (color.toList.dropWhile isJsSpace, inner) := by
    rw [doc]; exact matchFull_span quoteFree inner
  simp only [detectColorSpan, whole.1, whole.2, selected, full]

theorem removeColor_unbalances_two_spans (s : EditorState) (c₁ c₂ a b : String)
    (colors : '"' ∉ c₁.toList ∧ '"' ∉ c₂.toList) (plain : '<' ∉ a.toList ∧ '<' ∉ b.toList)
    (doc : s.doc = span c₁ a ++ span c₂ b) (whole : s.fromPos = 0 ∧ s.toPos = s.doc.length) :
    Balanced s.doc ∧ ∃ s', handleRemoveColor s = some s' ∧
      s'.doc = a.toList ++ closeTag ++ openTag c₂ ++ b.toList ∧ ¬ Balanced s'.doc := by
  have tags : colorTags s.doc = [.opener, .closer, .opener, .closer] := by
    rw [doc, colorTags_span colors.1 plain.1, ← List.append_nil (span c₂ b),
      colorTags_span colors.2 plain.2]
    rfl
  have oneSpan : s.doc = openTag c₁ ++ (a.toList ++ closeTag ++ openTag c₂ ++ b.toList) ++
      closeTag := by
    simp [doc, span]
  have unwrapped : colorTags (a.toList ++ closeTag ++ openTag c₂ ++ b.toList) =
      [.closer, .opener] := by
    simp only [List.append_assoc]
    rw [colorTags_plain _ plain.1, colorTags_closeTag, colorTags_openTag colors.2,
      ← List.append_nil b.toList, colorTags_plain _ plain.2]
    rfl
  refine ⟨by rw [Balanced, tags]; rfl, ?_⟩
  simp only [handleRemoveColor, detectColorSpan_whole colors.1 oneSpan whole, dispatch]
  rw [dif_pos (by simp)]
  refine ⟨_, rfl, by simp, ?_⟩
  simp only [Balanced, List.take_zero, List.drop_length, List.nil_append, List.append_nil,
    unwrapped]
  decide

def redBlue : EditorState :=
  ⟨span "red" "a" ++ span "blue" "b", 0, (span "red" "a" ++ span "blue" "b").length,
    Nat.zero_le _, le_rfl⟩

theorem removeColor_red_blue :
    Balanced redBlue.doc ∧ ∃ s', handleRemoveColor redBlue = some s' ∧
      s'.doc = "a".toList ++ closeTag ++ openTag "blue" ++ "b".toList ∧ ¬ Balanced s'.doc :=
  removeColor_unbalances_two_spans redBlue "red" "blue" "a" "b" (by decide) (by decide) rfl
    ⟨rfl, rfl⟩

/-! ### Wrapping a selection that ends inside a closing tag -/

theorem colorTags_cut_closeTag (rest : List Char) :
    colorTags ("</span".toList ++ closeTag ++ rest) = .closer :: colorTags rest := by
  have head : "</span".toList ++ closeTag ++ rest = '<' :: ("/span".toList ++ (closeTag ++ rest)) :=
    rfl
  have noOpener : matchOpener ("</span".toList ++ closeTag ++ rest) = none := by
    rw [matchOpener, if_neg]; simp [openPrefix_eq, List.isPrefixOf]
  have noCloser : closeTag.isPrefixOf ("</span".toList ++ closeTag ++ rest) = false := by
    simp [closeTag_eq, List.isPrefixOf]
  rw [head, colorTags_cons, ← head, noOpener]
  dsimp only
  rw [noCloser, if_neg Bool.false_ne_true, colorTags_plain _ (by decide), colorTags_closeTag]

theorem matchOpener_cut {text : List Char} (plain : '<' ∉ text) :
    matchOpener (text ++ "</span".toList) = none := by
  cases text with
  | nil => decide
  | cons c cs => exact matchOpener_of_ne _ fun same => plain (same ▸ List.mem_cons_self _ _)

theorem colorSelect_unbalances_cut_tag (s : EditorState) (c a color : String)
    (colors : '"' ∉ c.toList ∧ '"' ∉ color.toList) (plain : '<' ∉ a.toList)
    (doc : s.doc = span c a) (cut : s.fromPos = (openTag c).length ∧ s.toPos = s.doc.length - 1) :
    Balanced s.doc ∧ ∃ s', handleColorSelect s color = some s' ∧
      s'.doc = openTag c ++ openTag color ++ a.toList ++ "</span".toList ++ closeTag ++ ">".toList ∧
      ¬ Balanced s'.doc := by
  have split : s.doc = openTag c ++ (a.toList ++ "</span".toList) ++ ">".toList := by
    simp [doc, span, closeTag]
  have size : s.doc.length = (openTag c).length + a.toList.length + 7 := by
    simp [doc, span, closeTag_length, Nat.add_assoc]
  have front : s.doc.take (openTag c).length = openTag c := by
    rw [split, List.append_assoc, List.take_left]
  have back : s.doc.drop (s.doc.length - 1) = ">".toList := by
    rw [size, split, List.drop_left' (by simp; omega)]
  have selected : sliceDoc s.doc (openTag c).length (s.doc.length - 1) =
      a.toList ++ "</span".toList := by
    rw [sliceDoc, size, split, List.append_assoc, List.drop_left,
      List.take_left' (by simp; omega)]
  have after : sliceDoc s.doc (s.doc.length - 1) (min s.doc.length (s.doc.length - 1 + 20)) =
      ">".toList := by
    rw [sliceDoc, back, List.take_of_length_le (by simp; omega)]
  have undetected : detectColorSpan s = none := by
    simp only [detectColorSpan, cut.1, cut.2, selected, matchFull, matchOpener_cut plain, after]
    split <;> simp [closeTag_eq, List.isPrefixOf]
  refine ⟨?_, ?_⟩
  · rw [Balanced, doc, ← List.append_nil (span c a), colorTags_span colors.1 plain]; rfl
  have nonempty : a.toList ++ "</span".toList ≠ [] := by simp
  simp only [handleColorSelect, undetected, cut.1, cut.2, selected, if_neg nonempty, dispatch,
    front, back]
  rw [dif_pos (by simp [size]; omega)]
  refine ⟨_, rfl, by simp, ?_⟩
  simp only [Balanced, List.append_assoc, colorTags_openTag colors.1, colorTags_openTag colors.2,
    colorTags_plain _ plain]
  rw [← List.append_assoc, colorTags_cut_closeTag]
  decide

def cutRed : EditorState :=
  ⟨span "red" "abc", (openTag "red").length, (span "red" "abc").length - 1, by decide, by decide⟩

theorem colorSelect_cut_red :
    Balanced cutRed.doc ∧ ∃ s', handleColorSelect cutRed "#ffffff" = some s' ∧
      s'.doc = openTag "red" ++ openTag "#ffffff" ++ "abc".toList ++ "</span".toList ++ closeTag ++
        ">".toList ∧ ¬ Balanced s'.doc :=
  colorSelect_unbalances_cut_tag cutRed "red" "abc" "#ffffff" (by decide) (by decide) rfl
    ⟨by decide, by decide⟩


/-! ### No tag runs across an opening tag -/

theorem isPrefixOf_append_of_lt {p : List Char} (noLt : '<' ∉ p) (nonempty : p ≠ []) {w : List Char}
    (start : w.head? = some '<') (x : List Char) : p.isPrefixOf (x ++ w) = p.isPrefixOf x := by
  induction x generalizing p with
  | nil =>
    obtain ⟨a, p', rfl⟩ := List.exists_cons_of_ne_nil nonempty
    obtain ⟨b, w', rfl⟩ : ∃ b w', w = b :: w' := by
      cases w with
      | nil => cases start
      | cons b w' => exact ⟨b, w', rfl⟩
    cases start
    have : a ≠ '<' := fun same => noLt (same ▸ List.mem_cons_self _ _)
    simp [List.isPrefixOf, this]
  | cons b x ih =>
    obtain ⟨a, p', rfl⟩ := List.exists_cons_of_ne_nil nonempty
    by_cases empty : p' = []
    · subst empty; simp [List.isPrefixOf]
    · rw [List.cons_append, List.isPrefixOf_cons₂, List.isPrefixOf_cons₂,
        ih (fun mem => noLt (List.mem_cons_of_mem _ mem)) empty]

theorem isPrefixOf_tag_append {p : List Char} (noLt : '<' ∉ p) (nonempty : p ≠ []) {w : List Char}
    (start : w.head? = some '<') (c : Char) (x : List Char) :
    ('<' :: p).isPrefixOf (c :: x ++ w) = ('<' :: p).isPrefixOf (c :: x) := by
  rw [List.cons_append, List.isPrefixOf_cons₂, List.isPrefixOf_cons₂,
    isPrefixOf_append_of_lt noLt nonempty start]

theorem matchOpener_extend {u color rest : List Char} (opened : matchOpener u = some (color, rest))
    (x : List Char) : matchOpener (u ++ x) = some (color, rest ++ x) := by
  unfold matchOpener at opened ⊢
  split_ifs at opened with pre
  dsimp only at opened
  split at opened
  · next after split =>
    cases opened
    have long : openPrefix.length ≤ u.length := (List.isPrefixOf_iff_prefix.1 pre).length_le
    have found : ((u.drop openPrefix.length).dropWhile isJsSpace) ≠ [] := by
      intro none; rw [none] at split; cases split
    rw [if_pos (List.isPrefixOf_iff_prefix.2 ((List.isPrefixOf_iff_prefix.1 pre).trans
      (List.prefix_append _ _))), List.drop_append_of_le_length long]
    have spaces : ((u.drop openPrefix.length) ++ x).dropWhile isJsSpace =
        (u.drop openPrefix.length).dropWhile isJsSpace ++ x := by
      rw [List.dropWhile_append, if_neg (by simpa using found)]
    have quote : (((u.drop openPrefix.length).dropWhile isJsSpace) ++ x).dropWhile (· ≠ '"') =
        '"' :: '>' :: (rest ++ x) := by
      rw [List.dropWhile_append, split]; rfl
    have color : (((u.drop openPrefix.length).dropWhile isJsSpace) ++ x).takeWhile (· ≠ '"') =
        ((u.drop openPrefix.length).dropWhile isJsSpace).takeWhile (· ≠ '"') := by
      rw [List.takeWhile_append, if_neg]
      intro same
      have sizes := congrArg List.length (List.takeWhile_append_dropWhile (fun c => decide (c ≠ '"'))
        ((u.drop openPrefix.length).dropWhile isJsSpace))
      rw [List.length_append, split, same] at sizes
      simp at sizes
    simp only [spaces, quote, color]
  · cases opened

theorem tagEnd_of_append {b w after : List Char} (start : openPrefix <+: w)
    (found : (b ++ w).dropWhile (· ≠ '"') = '"' :: '>' :: after) :
    ∃ after', b.dropWhile (· ≠ '"') = '"' :: '>' :: after' := by
  obtain ⟨t, rfl⟩ := start
  have quote : (openPrefix ++ t).dropWhile (· ≠ '"') = '"' :: ("color:".toList ++ t) := rfl
  rw [List.dropWhile_append] at found
  split_ifs at found with gone
  · rw [quote] at found; simp at found
  · obtain ⟨d, e, split⟩ := List.exists_cons_of_ne_nil
      (by simpa only [Bool.not_eq_true, List.isEmpty_eq_false] using gone)
    rw [split] at found ⊢
    cases e with
    | nil => simp [openPrefix_eq] at found
    | cons e₁ e' =>
      simp only [List.cons_append, List.cons.injEq] at found
      exact ⟨e', by rw [found.1, found.2.1]⟩

theorem matchOpener_append {u w : List Char} (start : openPrefix <+: w) (nonempty : u ≠ []) :
    matchOpener (u ++ w) = (matchOpener u).map fun (color, rest) => (color, rest ++ w) := by
  cases opened : matchOpener u with
  | some m => exact matchOpener_extend opened w
  | none =>
    have lt : w.head? = some '<' := by obtain ⟨t, rfl⟩ := start; rfl
    have same : openPrefix.isPrefixOf (u ++ w) = openPrefix.isPrefixOf u := by
      obtain ⟨c, x, rfl⟩ := List.exists_cons_of_ne_nil nonempty
      rw [openPrefix_eq]; exact isPrefixOf_tag_append (by decide) (by decide) lt c x
    have spaces (a : List Char) : (a ++ w).dropWhile isJsSpace = a.dropWhile isJsSpace ++ w := by
      obtain ⟨t, rfl⟩ := start
      rw [List.dropWhile_append]
      split_ifs with gone
      · rw [List.isEmpty_iff.1 gone]; rfl
      · rfl
    unfold matchOpener at opened ⊢
    rw [same]
    split_ifs at opened ⊢ with pre
    · rw [List.drop_append_of_le_length (List.isPrefixOf_iff_prefix.1 pre).length_le, spaces]
      dsimp only at opened ⊢
      split at opened
      · cases opened
      · next unmatched =>
        split
        · next found =>
          obtain ⟨_, found'⟩ := tagEnd_of_append start found
          exact absurd found' (unmatched _)
        · rfl
    · rfl

theorem colorTags_append {u w : List Char} (start : openPrefix <+: w) :
    colorTags (u ++ w) = colorTags u ++ colorTags w := by
  match u with
  | [] => rfl
  | c :: x =>
    have lt : w.head? = some '<' := by obtain ⟨t, rfl⟩ := start; rfl
    rw [List.cons_append, colorTags_cons, colorTags_cons c x, ← List.cons_append,
      matchOpener_append start (List.cons_ne_nil c x)]
    cases opened : matchOpener (c :: x) with
    | some m =>
      have := matchOpener_length opened
      dsimp only [Option.map_some']
      rw [colorTags_append start (u := m.2), List.cons_append]
    | none =>
      dsimp only [Option.map_none']
      rw [closeTag_eq, isPrefixOf_tag_append (by decide) (by decide) lt c x, ← closeTag_eq]
      split_ifs with closing
      · have long := (List.isPrefixOf_iff_prefix.1 closing).length_le
        have shorter : x.length + 1 - closeTag.length < x.length + 1 := by
          rw [closeTag_length]; omega
        rw [List.drop_append_of_le_length long, colorTags_append start, List.cons_append]
      · exact colorTags_append start (u := x)
termination_by u.length

/-! ### Recolouring a span -/

theorem openPrefix_of_matchOpener {cs : List Char} {m : List Char × List Char}
    (opened : matchOpener cs = some m) : openPrefix <+: cs := by
  unfold matchOpener at opened
  split_ifs at opened with pre
  exact List.isPrefixOf_iff_prefix.1 pre

theorem colorTags_of_matchOpener {cs color rest : List Char}
    (opened : matchOpener cs = some (color, rest)) : colorTags cs = .opener :: colorTags rest := by
  obtain ⟨t, rfl⟩ := openPrefix_of_matchOpener opened
  rw [openPrefix_eq, List.cons_append, colorTags_cons, ← List.cons_append, ← openPrefix_eq, opened]

theorem openPrefix_prefix_openTag (color : String) : openPrefix <+: openTag color := by
  rw [openTag_eq, List.append_assoc]; exact List.prefix_append _ _

theorem dispatch_spec {s : EditorState} {i j : Nat} (insert : List Char) (anchor head : Nat)
    (ordered : i ≤ j) (inside : j ≤ s.doc.length)
    (anchors : anchor ≤ i + insert.length ∧ head ≤ i + insert.length) :
    ∃ s', dispatch s i j insert anchor head = some s' ∧
      s'.doc = s.doc.take i ++ insert ++ s.doc.drop j := by
  have size : (s.doc.take i ++ insert ++ s.doc.drop j).length =
      i + insert.length + (s.doc.length - j) := by
    simp only [List.length_append, List.length_take, List.length_drop]; omega
  rw [dispatch, dif_pos ⟨ordered, inside, by omega, by omega⟩]
  exact ⟨_, rfl, rfl⟩

theorem dispatch_isSome {s : EditorState} {i j : Nat} (insert : List Char) (anchor head : Nat)
    (ordered : i ≤ j) (inside : j ≤ s.doc.length)
    (anchors : anchor ≤ i + insert.length ∧ head ≤ i + insert.length) :
    (dispatch s i j insert anchor head).isSome := by
  obtain ⟨_, changed, -⟩ := dispatch_spec insert anchor head ordered inside anchors
  rw [changed]; rfl

theorem drop_eq_sliceDoc_append (doc : List Char) {i j : Nat} (le : i ≤ j) :
    doc.drop i = sliceDoc doc i j ++ doc.drop j := by
  have whole := List.take_append_drop (j - i) (doc.drop i)
  rw [List.drop_drop, Nat.add_sub_cancel' le] at whole
  exact whole.symm

theorem drop_sliceDoc (doc : List Char) (i j k : Nat) :
    (sliceDoc doc i j).drop k = sliceDoc doc (i + k) j := by
  rw [sliceDoc, sliceDoc, List.drop_take, List.drop_drop, Nat.sub_sub]

theorem matchOpenerAtEnd_spec {l color : List Char} {matched : Nat}
    (found : matchOpenerAtEnd l = some (color, matched)) :
    matched ≤ l.length ∧ matchOpener (l.drop (l.length - matched)) = some (color, []) := by
  obtain ⟨p, mem, hit⟩ := List.exists_of_findSome?_eq_some found
  have bound := List.mem_range.1 mem
  split at hit
  · next opened =>
    cases hit
    rw [Nat.sub_sub_self (by omega)]
    exact ⟨by omega, opened⟩
  · cases hit

theorem matchOpener_of_matchFull {selected color inner : List Char}
    (found : matchFull selected = some (color, inner)) :
    matchOpener selected = some (color, inner ++ closeTag) := by
  unfold matchFull at found
  split at found
  · next opened =>
    split_ifs at found with suffix
    cases found
    obtain ⟨front, rfl⟩ := List.isSuffixOf_iff_suffix.1 suffix
    rw [opened, List.length_append, Nat.add_sub_cancel, List.take_left]
  · cases found

/-- Where `detectColorSpan` finds a span, the span lies in the document, and an opening tag at
its start ends right before the inner text, which a closing tag follows. -/
theorem detectColorSpan_spec {s : EditorState} {found : ColorSpan}
    (detected : detectColorSpan s = some found) :
    found.outerFrom ≤ found.outerTo ∧ found.outerTo ≤ s.doc.length ∧
      ∃ color, matchOpener (s.doc.drop found.outerFrom) =
        some (color, found.inner ++ closeTag ++ s.doc.drop found.outerTo) := by
  have ordered := s.fromPos_le_toPos
  have inside := s.toPos_le_length
  unfold detectColorSpan at detected
  dsimp only at detected
  split at detected
  · next color inner full =>
    cases detected
    refine ⟨ordered, inside, color, ?_⟩
    rw [drop_eq_sliceDoc_append s.doc ordered,
      matchOpener_extend (matchOpener_of_matchFull full), List.append_assoc]
  · split at detected
    · next color matched atEnd =>
      split_ifs at detected with closing
      cases detected
      obtain ⟨within, opened⟩ := matchOpenerAtEnd_spec atEnd
      have size : (sliceDoc s.doc (s.fromPos - 100) s.fromPos).length =
          s.fromPos - (s.fromPos - 100) := by
        simp only [sliceDoc, List.length_take, List.length_drop]; omega
      have start : s.fromPos - 100 + (s.fromPos - (s.fromPos - 100) - matched) =
          s.fromPos - matched := by
        omega
      rw [size, drop_sliceDoc, start] at opened
      obtain ⟨rest, after⟩ := (List.isPrefixOf_iff_prefix.1 closing).trans (List.take_prefix _ _)
      have long : s.toPos + closeTag.length ≤ s.doc.length := by
        have sizes := congrArg List.length after
        simp only [List.length_append, List.length_drop] at sizes
        omega
      have tail : s.doc.drop (s.toPos + closeTag.length) = rest := by
        rw [← List.drop_drop, ← after, List.drop_left]
      dsimp only
      refine ⟨by omega, long, color, ?_⟩
      rw [drop_eq_sliceDoc_append s.doc (Nat.sub_le s.fromPos matched), matchOpener_extend opened,
        List.nil_append, drop_eq_sliceDoc_append s.doc ordered, tail, ← after, List.append_assoc]
    · cases detected

/-- Recolouring a span that `detectColorSpan` finds rewrites its opening tag and nothing else:
the colour tags of the document are those it had, whatever the selection. -/
theorem colorSelect_keeps_tags (s : EditorState) (color : String) (quoteFree : '"' ∉ color.toList)
    (found : (detectColorSpan s).isSome) :
    ∃ s', handleColorSelect s color = some s' ∧ colorTags s'.doc = colorTags s.doc := by
  obtain ⟨span, detected⟩ := Option.isSome_iff_exists.1 found
  obtain ⟨ordered, inside, old, opened⟩ := detectColorSpan_spec detected
  obtain ⟨s', changed, doc⟩ := dispatch_spec (s := s) (openTag color ++ span.inner ++ closeTag)
    (span.outerFrom + (openTag color).length)
    (span.outerFrom + (openTag color).length + span.inner.length) ordered inside ⟨by simp only [List.length_append]; omega, by simp only [List.length_append]; omega⟩
  refine ⟨s', by simp only [handleColorSelect, detected]; exact changed, ?_⟩
  have recoloured : s'.doc = s.doc.take span.outerFrom ++
      (openTag color ++ (span.inner ++ closeTag ++ s.doc.drop span.outerTo)) := by
    simp only [doc, List.append_assoc]
  calc colorTags s'.doc
      = colorTags (s.doc.take span.outerFrom) ++
          .opener :: colorTags (span.inner ++ closeTag ++ s.doc.drop span.outerTo) := by
        rw [recoloured, colorTags_append ((openPrefix_prefix_openTag color).trans
          (List.prefix_append _ _)), colorTags_openTag quoteFree]
    _ = colorTags (s.doc.take span.outerFrom) ++ colorTags (s.doc.drop span.outerFrom) := by
        rw [colorTags_of_matchOpener opened]
    _ = colorTags s.doc := by
        rw [← colorTags_append (openPrefix_of_matchOpener opened), List.take_append_drop]

def redInner : EditorState :=
  ⟨span "red" "abc", (openTag "red").length, (openTag "red").length + 3, by decide, by decide⟩

theorem colorSelect_red_inner :
    ∃ s', handleColorSelect redInner "#00f" = some s' ∧ colorTags s'.doc = colorTags redInner.doc :=
  colorSelect_keeps_tags redInner "#00f" (by decide) (by decide)

/-- Neither colour tool makes CodeMirror throw: each change it dispatches lies in the document
and puts the selection inside the new one. -/
theorem colorTools_never_throw (s : EditorState) (color : String) :
    (handleColorSelect s color).isSome ∧ (handleRemoveColor s).isSome := by
  cases detected : detectColorSpan s with
  | none =>
    simp only [handleColorSelect, handleRemoveColor, detected, Option.isSome_some, and_true]
    exact dispatch_isSome _ _ _ s.fromPos_le_toPos s.toPos_le_length
      ⟨by simp only [List.length_append]; omega, by simp only [List.length_append]; omega⟩
  | some span =>
    obtain ⟨ordered, inside, -⟩ := detectColorSpan_spec detected
    simp only [handleColorSelect, handleRemoveColor, detected]
    exact ⟨dispatch_isSome _ _ _ ordered inside
      ⟨by simp only [List.length_append]; omega, by simp only [List.length_append]; omega⟩,
      dispatch_isSome _ _ _ ordered inside ⟨by omega, by omega⟩⟩

end AuraLogic.MarkdownEditor
