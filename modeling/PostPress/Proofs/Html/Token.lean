import Mathlib.Data.List.TakeWhile
import PostPress.Html.Markup

/-!
# PostPress.Proofs.Html.Token

**How markup is cut into tokens.** The names in a tag that is read are such that they are
read again when they are written (`isTagName`, `isAttributeName`). Written markup is
tidy: it is made of characters and of tags (`Tidy`), and cutting off a token leaves tidy
markup, with no other tags than were written (`Tidy.next`).
-/

namespace PostPress.Html

/-! ### Characters of names -/

/-- Whether a character may stand in the name of a tag. -/
def isTagNameChar (c : Char) : Bool := !(isTagBlank c || c == '/' || c == '>' || c == '\r')

/-- Whether characters are the name of a tag: they begin with a letter. -/
def isTagName : List Char → Bool
  | [] => false
  | c :: rest => c.isAlpha && (c :: rest).all isTagNameChar

/-- Whether characters are the name of an attribute: only the first one may be an equals
sign. -/
def isAttributeName : List Char → Bool
  | [] => false
  | c :: rest => isTagNameChar c && rest.all fun d => isTagNameChar d && d != '='

theorem isTagNameChar_eq_false {c : Char} (h : isTagNameChar c = false) :
    c ∈ ['\t', '\n', '\x0c', ' ', '/', '>', '\r'] := by
  simp only [isTagNameChar, isTagBlank, Bool.not_eq_false', Bool.or_eq_true, beq_iff_eq] at h
  simpa only [List.mem_cons, List.not_mem_nil, or_false, or_assoc] using h

theorem isTagNameChar_of_isAlpha {c : Char} (h : c.isAlpha = true) : isTagNameChar c = true := by
  by_contra hnot
  have hmem := isTagNameChar_eq_false (eq_false_of_ne_true hnot)
  have hall : ['\t', '\n', '\x0c', ' ', '/', '>', '\r'].all (!·.isAlpha) = true := by decide
  have hletter := List.all_eq_true.1 hall c hmem
  rw [h] at hletter
  exact Bool.false_ne_true hletter

theorem isLower_iff {c : Char} :
    c.isLower = true ↔ 97 ≤ c.val.toNat ∧ c.val.toNat ≤ 122 := by
  show (decide (c.val ≥ 'a'.val) && decide (c.val ≤ 'z'.val)) = true ↔ _
  rw [Bool.and_eq_true, decide_eq_true_eq, decide_eq_true_eq]
  exact Iff.rfl

/-- A capital becomes a letter, all other characters stay. -/
theorem toLower_eq_or (c : Char) : c.toLower = c ∨ c.toLower.isLower = true := by
  unfold Char.toLower
  split
  · next h =>
    right
    obtain ⟨hge, hle⟩ := h
    have hge : 65 ≤ c.val.toNat := UInt32.le_iff_toNat_le.1 hge
    have hle : c.val.toNat ≤ 90 := UInt32.le_iff_toNat_le.1 hle
    rw [isLower_iff]
    simp only [UInt32.toNat_add, Char.reduceVal, UInt32.reduceSub, UInt32.reduceToNat]
    omega
  · exact .inl rfl

theorem isAlpha_of_isLower {c : Char} (h : c.isLower = true) : c.isAlpha = true := by
  show (c.isUpper || c.isLower) = true
  rw [h, Bool.or_true]

theorem toLower_of_isLower {c : Char} (h : c.isLower = true) : c.toLower = c := by
  unfold Char.toLower
  rw [dif_neg]
  rw [isLower_iff] at h
  rintro ⟨-, hle⟩
  have hle : c.val.toNat ≤ 90 := UInt32.le_iff_toNat_le.1 hle
  omega

/-- A character of a tag name as it is read. -/
def readNameChar (c : Char) : Char := if c = '\x00' then replacement else c.toLower

theorem isTagNameChar_readNameChar {c : Char} (h : isTagNameChar c = true) :
    isTagNameChar (readNameChar c) = true := by
  unfold readNameChar
  split
  · decide
  · rcases toLower_eq_or c with hsame | hlower
    · rwa [hsame]
    · exact isTagNameChar_of_isAlpha (isAlpha_of_isLower hlower)

theorem isAlpha_readNameChar {c : Char} (h : c.isAlpha = true) :
    (readNameChar c).isAlpha = true := by
  have hne : c ≠ '\x00' := by
    rintro rfl
    exact absurd h (by decide)
  rw [readNameChar, if_neg hne]
  rcases toLower_eq_or c with hsame | hlower
  · rwa [hsame]
  · exact isAlpha_of_isLower hlower

theorem readNameChar_ne_equals {c : Char} (h : c ≠ '=') : readNameChar c ≠ '=' := by
  unfold readNameChar
  split
  · decide
  · rcases toLower_eq_or c with hsame | hlower
    · rwa [hsame]
    · intro heq
      rw [heq] at hlower
      exact absurd hlower (by decide)

theorem readNameChar_readNameChar (c : Char) : readNameChar (readNameChar c) = readNameChar c := by
  unfold readNameChar
  by_cases hc : c = '\x00'
  · rw [if_pos hc]
    decide
  · rw [if_neg hc]
    rcases toLower_eq_or c with hsame | hlower
    · rw [hsame, if_neg hc, hsame]
    · have hne : c.toLower ≠ '\x00' := by
        intro heq
        rw [heq] at hlower
        exact absurd hlower (by decide)
      rw [if_neg hne, toLower_of_isLower hlower]

theorem toList_tagName (text : List Char) : (tagName text).toList = text.map readNameChar :=
  String.toList_ofList

/-- A name is read as it was read before. -/
theorem tagName_toList_tagName (text : List Char) : tagName (tagName text).toList = tagName text := by
  have hsame : readNameChar ∘ readNameChar = readNameChar := funext readNameChar_readNameChar
  apply String.toList_injective
  rw [toList_tagName, toList_tagName, List.map_map, hsame]

theorem isTagName_tagName {text : List Char} (h : isTagName text = true) :
    isTagName (tagName text).toList = true := by
  rw [toList_tagName]
  cases text with
  | nil => exact absurd h Bool.false_ne_true
  | cons c rest =>
      rw [isTagName, Bool.and_eq_true, List.all_eq_true] at h
      rw [List.map_cons, isTagName, Bool.and_eq_true, ← List.map_cons, List.all_map,
        List.all_eq_true]
      exact ⟨isAlpha_readNameChar h.1, fun d hd => isTagNameChar_readNameChar (h.2 d hd)⟩

theorem isAttributeName_tagName {text : List Char} (h : isAttributeName text = true) :
    isAttributeName (tagName text).toList = true := by
  rw [toList_tagName]
  cases text with
  | nil => exact absurd h Bool.false_ne_true
  | cons c rest =>
      simp only [isAttributeName, Bool.and_eq_true, List.all_eq_true, bne_iff_ne] at h
      simp only [List.map_cons, isAttributeName, Bool.and_eq_true, List.all_eq_true, bne_iff_ne,
        List.forall_mem_map]
      exact ⟨isTagNameChar_readNameChar h.1, fun d hd =>
        ⟨isTagNameChar_readNameChar (h.2 d hd).1, readNameChar_ne_equals (h.2 d hd).2⟩⟩

/-! ### What is left of a text -/

theorem readName_suffix (text : List Char) : (readName text).2 <:+ text := by
  cases text with
  | nil => exact List.suffix_refl _
  | cons c rest => exact (List.dropWhile_suffix _).trans (List.suffix_cons c rest)

theorem readValue_suffix {text value rest : List Char} (h : readValue text = some (value, rest)) :
    rest <:+ text := by
  unfold readValue at h
  split at h
  · exact absurd h nofun
  · next after =>
    split at h
    · exact absurd h nofun
    · next heq =>
      obtain ⟨-, rfl⟩ := Prod.mk.inj (Option.some.inj h)
      have hsuffix := heq ▸ List.dropWhile_suffix (l := after) (· ≠ '"')
      exact ((List.suffix_cons _ _).trans hsuffix).trans (List.suffix_cons _ _)
  · next after =>
    split at h
    · exact absurd h nofun
    · next heq =>
      obtain ⟨-, rfl⟩ := Prod.mk.inj (Option.some.inj h)
      have hsuffix := heq ▸ List.dropWhile_suffix (l := after) (· ≠ '\'')
      exact ((List.suffix_cons _ _).trans hsuffix).trans (List.suffix_cons _ _)
  · obtain ⟨-, rfl⟩ := Prod.mk.inj (Option.some.inj h)
    exact List.dropWhile_suffix _

/-- An attribute of a tag that was read. -/
def IsReadAttribute (attr : Attribute) : Prop :=
  attr.space = .none ∧ isAttributeName attr.name.toList = true

theorem isReadAttribute_addAttribute {attrs : List Attribute} {text : List Char}
    (hattrs : ∀ attr ∈ attrs, IsReadAttribute attr) (htext : isAttributeName text = true)
    (value : String) : ∀ attr ∈ addAttribute attrs (tagName text) value, IsReadAttribute attr := by
  unfold addAttribute
  split
  · exact hattrs
  · intro attr hattr
    rcases List.mem_append.1 hattr with hold | hnew
    · exact hattrs attr hold
    · rw [List.mem_singleton.1 hnew]
      exact ⟨rfl, isAttributeName_tagName htext⟩

/-- A name that begins where a tag goes on is that of an attribute. -/
theorem isAttributeName_readName {text : List Char} {c : Char} {rest : List Char}
    (htext : text.dropWhile isTagBlank = c :: rest) (hreturn : '\r' ∉ text)
    (hslash : c ≠ '/') (hangle : c ≠ '>') : isAttributeName (readName (c :: rest)).1 = true := by
  have hsuffix : c :: rest <:+ text := htext ▸ List.dropWhile_suffix _
  have hchars : ∀ d ∈ c :: rest, d ≠ '\r' := fun d hd hreq => hreturn (hreq ▸ hsuffix.subset hd)
  have hblank : isTagBlank c = false := by
    have hhead := List.head_dropWhile_not isTagBlank (l := text) (by rw [htext]; simp)
    simpa [htext] using hhead
  have hc : c ≠ '\r' := hchars c List.mem_cons_self
  simp only [readName, isAttributeName, isTagNameChar, hblank, hslash, hangle, hc,
    Bool.and_eq_true, List.all_eq_true, beq_eq_false_iff_ne.2, ne_eq, not_false_eq_true,
    Bool.or_self, Bool.not_false, true_and]
  intro d hd
  have hinside := List.mem_takeWhile_imp hd
  have hdr : d ≠ '\r' := hchars d (List.mem_cons_of_mem _ ((List.takeWhile_sublist _).subset hd))
  simp only [Bool.not_eq_true', Bool.or_eq_false_iff, beq_eq_false_iff_ne] at hinside
  simp [hinside, hdr]

/-- **The attributes of a tag**, and what is left after it. -/
theorem readAttributes_spec (fuel : Nat) :
    ∀ {attrs : List Attribute} {text : List Char} {result : List Attribute × Bool × List Char},
      readAttributes fuel attrs text = some result → '\r' ∉ text →
        (∀ attr ∈ attrs, IsReadAttribute attr) →
          (∀ attr ∈ result.1, IsReadAttribute attr) ∧ result.2.2 <:+ text := by
  induction fuel with
  | zero => exact fun h => absurd h nofun
  | succ fuel ih =>
      intro attrs text result h hreturn hattrs
      have hdrop : text.dropWhile isTagBlank <:+ text := List.dropWhile_suffix _
      unfold readAttributes at h
      split at h
      · exact absurd h nofun
      · next rest heq =>
        obtain rfl := Option.some.inj h
        exact ⟨hattrs, (List.suffix_cons _ _).trans (heq ▸ hdrop)⟩
      · next rest heq =>
        obtain rfl := Option.some.inj h
        exact ⟨hattrs, ((List.suffix_cons _ _).trans (List.suffix_cons _ _)).trans (heq ▸ hdrop)⟩
      · next rest _ heq =>
        have hrest : rest <:+ text := (List.suffix_cons _ _).trans (heq ▸ hdrop)
        obtain ⟨hresult, hsuffix⟩ := ih h (fun hmem => hreturn (hrest.subset hmem)) hattrs
        exact ⟨hresult, hsuffix.trans hrest⟩
      · next hnil hangle _ hslash =>
        obtain ⟨c, rest, heq⟩ := List.exists_cons_of_ne_nil hnil
        have hname := isAttributeName_readName heq hreturn
          (fun hc => hslash rest (hc ▸ heq)) (fun hc => hangle rest (hc ▸ heq))
        rw [heq] at h hdrop
        dsimp only at h
        have hafter : ((readName (c :: rest)).2.dropWhile isTagBlank) <:+ text :=
          ((List.dropWhile_suffix _).trans (readName_suffix _)).trans hdrop
        split at h
        · next value heq' =>
          rw [heq'] at hafter
          split at h
          · exact absurd h nofun
          · next hvalue =>
            have hleft := ((readValue_suffix hvalue).trans
              ((List.dropWhile_suffix _).trans (List.suffix_cons _ _))).trans hafter
            obtain ⟨hresult, hsuffix⟩ := ih h (fun hmem => hreturn (hleft.subset hmem))
              (isReadAttribute_addAttribute hattrs hname _)
            exact ⟨hresult, hsuffix.trans hleft⟩
        · obtain ⟨hresult, hsuffix⟩ := ih h (fun hmem => hreturn (hafter.subset hmem))
            (isReadAttribute_addAttribute hattrs hname _)
          exact ⟨hresult, hsuffix.trans hafter⟩

/-- What is known of a start tag that was read: its names are read again when they are
written. -/
def Token.WellNamed (token : Token) : Prop :=
  ∀ name attrs selfClosing, token = .startTag name attrs selfClosing →
    isTagName name.toList = true ∧ tagName name.toList = name ∧
      ∀ attr ∈ attrs, IsReadAttribute attr

/-- The characters up to the end of a name are the name of a tag. -/
theorem isTagName_takeWhile {c : Char} {rest : List Char} (hletter : c.isAlpha = true)
    (hreturn : '\r' ∉ c :: rest) :
    isTagName ((c :: rest).takeWhile fun c => !(isTagBlank c || c == '/' || c == '>')) = true := by
  have hc : (!(isTagBlank c || c == '/' || c == '>')) = true := by
    have hchar := isTagNameChar_of_isAlpha hletter
    simp only [isTagNameChar, Bool.not_eq_true', Bool.or_eq_false_iff] at hchar ⊢
    exact hchar.1
  have hcut : (c :: rest).takeWhile (fun c => !(isTagBlank c || c == '/' || c == '>')) =
      c :: rest.takeWhile fun c => !(isTagBlank c || c == '/' || c == '>') := by
    rw [List.takeWhile_cons, if_pos hc]
  rw [hcut, isTagName, hletter, Bool.true_and, ← hcut, List.all_eq_true]
  intro d hd
  have hinside := List.mem_takeWhile_imp hd
  have hdr : d ≠ '\r' := fun heq => hreturn (heq ▸ (List.takeWhile_sublist _).subset hd)
  simp only [Bool.not_eq_true', Bool.or_eq_false_iff, beq_eq_false_iff_ne] at hinside
  simp [isTagNameChar, hinside, hdr]

/-- **A tag that is read**: its name begins with a letter. -/
theorem readTag_spec {isEnd : Bool} {c : Char} {rest : List Char} {result : Token × List Char}
    (h : readTag isEnd (c :: rest) = some result) (hreturn : '\r' ∉ c :: rest)
    (hletter : c.isAlpha = true) : result.1.WellNamed ∧ result.2 <:+ c :: rest := by
  unfold readTag at h
  obtain ⟨⟨attrs, selfClosing, after⟩, hread, rfl⟩ := Option.map_eq_some_iff.1 h
  have hdrop := List.dropWhile_suffix (l := c :: rest)
    fun c => !(isTagBlank c || c == '/' || c == '>')
  obtain ⟨hattrs, hsuffix⟩ := readAttributes_spec _ hread
    (fun hmem => hreturn (hdrop.subset hmem)) (fun _ hmem => absurd hmem List.not_mem_nil)
  refine ⟨fun name attrs' selfClosing' heq => ?_, hsuffix.trans hdrop⟩
  dsimp only at heq
  split at heq
  · exact absurd heq nofun
  · obtain ⟨rfl, rfl, rfl⟩ := Token.startTag.inj heq
    exact ⟨isTagName_tagName (isTagName_takeWhile hletter hreturn), tagName_toList_tagName _,
      hattrs⟩

/-! ### Any text -/

theorem afterAngle_suffix (text : List Char) : afterAngle text <:+ text :=
  (List.drop_suffix 1 _).trans (List.dropWhile_suffix _)

theorem afterComment_suffix (text : List Char) : afterComment text <:+ text := by
  fun_induction afterComment text with
  | case1 => exact List.suffix_refl _
  | case2 rest => exact ⟨['-', '-', '>'], rfl⟩
  | case3 rest => exact ⟨['-', '-', '!', '>'], rfl⟩
  | case4 c rest _ _ ih => exact ih.trans (List.suffix_cons c rest)

theorem readCharacterData_suffix (text : List Char) : (readCharacterData text).2 <:+ text := by
  fun_induction readCharacterData text with
  | case1 => exact List.suffix_refl _
  | case2 rest => exact ⟨[']', ']', '>'], rfl⟩
  | case3 c rest _ chars after heq ih =>
      rw [heq] at ih
      exact ih.trans (List.suffix_cons c rest)

theorem readDeclaration_suffix (allowCharacterData : Bool) (text : List Char) :
    (readDeclaration allowCharacterData text).2 <:+ text := by
  unfold readDeclaration
  split
  · next rest => exact ⟨['-', '-', '>'], rfl⟩
  · next rest => exact ⟨['-', '-', '-', '>'], rfl⟩
  · next rest _ _ => exact (afterComment_suffix rest).trans ⟨['-', '-'], rfl⟩
  · split
    · exact afterAngle_suffix text
    · split
      · exact (readCharacterData_suffix _).trans (List.drop_suffix 7 text)
      · exact afterAngle_suffix text

/-- A text without its beginning, in which there is no angle. -/
def Cut (text rest : List Char) : Prop := ∃ cut, text = cut ++ rest ∧ '<' ∉ cut

theorem Cut.refl (text : List Char) : Cut text text := ⟨[], rfl, List.not_mem_nil⟩

theorem Cut.suffix {text rest : List Char} (h : Cut text rest) : rest <:+ text := by
  obtain ⟨cut, rfl, -⟩ := h
  exact List.suffix_append cut rest

theorem Cut.trans {text middle rest : List Char} (h : Cut text middle) (hrest : Cut middle rest) :
    Cut text rest := by
  obtain ⟨cut, rfl, hcut⟩ := h
  obtain ⟨cut', rfl, hcut'⟩ := hrest
  refine ⟨cut ++ cut', (List.append_assoc ..).symm, ?_⟩
  rw [List.mem_append]
  exact fun hmem => hmem.elim hcut hcut'

theorem Cut.cons {c : Char} (hc : c ≠ '<') (rest : List Char) : Cut (c :: rest) rest :=
  ⟨[c], rfl, fun hmem => hc (List.mem_singleton.1 hmem).symm⟩

theorem Cut.dropWhile {p : Char → Bool} (hp : p '<' = false) (text : List Char) :
    Cut text (text.dropWhile p) := by
  refine ⟨text.takeWhile p, List.takeWhile_append_dropWhile.symm, fun hmem => ?_⟩
  exact Bool.false_ne_true (hp.symm.trans (List.mem_takeWhile_imp hmem))

theorem readNumeric_cut {base : Nat} {text rest : List Char} {c : Char}
    (h : readNumeric base text = some (c, rest)) : Cut text rest := by
  unfold readNumeric at h
  dsimp only at h
  split at h
  · exact absurd h nofun
  · obtain ⟨-, rfl⟩ := Prod.mk.inj (Option.some.inj h)
    have hdigits : Cut text (text.dropWhile (Text.isDigitOf base)) :=
      Cut.dropWhile (by simp [Text.isDigitOf, Text.digitValue?]) text
    split
    · next heq => exact hdigits.trans (heq ▸ Cut.cons (by decide) _)
    · exact hdigits

theorem le_length_of_legacyReference {run chars : List Char} {length : Nat}
    (h : Text.legacyReference? run = some (length, chars)) : length ≤ run.length := by
  unfold Text.legacyReference? at h
  obtain ⟨n, hn, hfound⟩ := List.exists_of_findSome?_eq_some h
  rw [List.mem_reverse, List.mem_range'_1] at hn
  dsimp only at hfound
  split at hfound
  · obtain ⟨found, -, heq⟩ := Option.map_eq_some_iff.1 hfound
    obtain ⟨rfl, -⟩ := Prod.mk.inj heq
    omega
  · exact absurd hfound nofun

theorem readNamed_cut {inAttribute : Bool} {text chars rest : List Char}
    (h : readNamed inAttribute text = some (chars, rest)) : Cut text rest := by
  have halnum : Cut text (text.dropWhile Char.isAlphanum) := Cut.dropWhile (by decide) text
  unfold readNamed at h
  dsimp only at h
  rcases Option.or_eq_some_iff.1 h with hwhole | ⟨-, hlegacy⟩
  · split at hwhole
    · next heq =>
      obtain ⟨found, -, hpair⟩ := Option.map_eq_some_iff.1 hwhole
      obtain ⟨-, rfl⟩ := Prod.mk.inj hpair
      exact halnum.trans (heq ▸ Cut.cons (by decide) _)
    · exact absurd hwhole nofun
  · obtain ⟨⟨length, found⟩, hfound, hafter⟩ := Option.bind_eq_some_iff.1 hlegacy
    obtain ⟨-, hpair⟩ := Option.ite_none_left_eq_some.1 hafter
    obtain ⟨-, rfl⟩ := Prod.mk.inj (Option.some.inj hpair)
    -- The name is the beginning of a run of letters and digits.
    refine ⟨text.take length, (List.take_append_drop length text).symm, fun hmem => ?_⟩
    have hrun : text.take length <+: text.takeWhile Char.isAlphanum := by
      have hlength := le_length_of_legacyReference hfound
      exact List.prefix_of_prefix_length_le (List.take_prefix length text)
        (List.takeWhile_prefix _) ((List.length_take_le length text).trans hlength)
    exact absurd (List.mem_takeWhile_imp (hrun.subset hmem)) (by decide)

/-- A reference has no angle in it. -/
theorem readReference_cut (inAttribute : Bool) (text : List Char) :
    Cut text (readReference inAttribute text).2 := by
  unfold readReference
  dsimp only
  split
  · next c rest =>
    have hsharp : Cut ('#' :: c :: rest) (c :: rest) := Cut.cons (by decide) _
    split
    · next hx =>
      have hc : c ≠ '<' := by rcases hx with rfl | rfl <;> decide
      cases hnumber : readNumeric 16 rest with
      | none => exact Cut.refl _
      | some result => exact (hsharp.trans (Cut.cons hc _)).trans (readNumeric_cut hnumber)
    · cases hnumber : readNumeric 10 (c :: rest) with
      | none => exact Cut.refl _
      | some result => exact hsharp.trans (readNumeric_cut hnumber)
  · cases hnamed : readNamed inAttribute text with
    | none => exact Cut.refl text
    | some result => exact readNamed_cut hnamed

theorem readUntilEndTag_suffix (element : String) (text : List Char) :
    (readUntilEndTag element text).2 <:+ text := by
  fun_induction readUntilEndTag element text with
  | case1 => exact List.suffix_refl _
  | case2 c rest _ => exact List.suffix_refl _
  | case3 c rest _ chars after heq ih =>
      rw [heq] at ih
      exact ih.trans (List.suffix_cons c rest)

theorem readScript_suffix (state : ScriptState) (dashes : Nat) (text : List Char) :
    (readScript state dashes text).2 <:+ text := by
  induction text generalizing state dashes with
  | nil => exact List.suffix_refl _
  | cons c rest ih =>
      unfold readScript
      dsimp only
      split
      · exact List.suffix_refl _
      · exact (ih _ _).trans (List.suffix_cons c rest)

theorem wellNamed_of_ne_startTag {token : Token}
    (h : ∀ name attrs selfClosing, token ≠ .startTag name attrs selfClosing) : token.WellNamed :=
  fun name attrs selfClosing heq => absurd heq (h name attrs selfClosing)

theorem wellNamed_textToken (chars : List Char) : (textToken chars).WellNamed := by
  unfold textToken
  split <;> exact wellNamed_of_ne_startTag fun _ _ _ h => Token.noConfusion h

theorem wellNamed_readDeclaration (allowCharacterData : Bool) (text : List Char) :
    (readDeclaration allowCharacterData text).1.WellNamed := by
  refine wellNamed_of_ne_startTag fun name attrs selfClosing heq => ?_
  unfold readDeclaration at heq
  split at heq
  · exact absurd heq nofun
  · exact absurd heq nofun
  · exact absurd heq nofun
  · split at heq
    · exact absurd heq nofun
    · split at heq <;> exact absurd heq nofun

/-- What a reader of tokens gives for a text: a token with names that are read again, and an
end of the text. -/
def Reads (result : Option Token × List Char) (text : List Char) : Prop :=
  (∀ token, result.1 = some token → token.WellNamed) ∧ result.2 <:+ text

theorem reads_some {token : Token} {rest text : List Char} (htoken : token.WellNamed)
    (hrest : rest <:+ text) : Reads (some token, rest) text :=
  ⟨fun _ heq => Option.some.inj heq ▸ htoken, hrest⟩

theorem reads_none {rest text : List Char} (hrest : rest <:+ text) : Reads (none, rest) text :=
  ⟨fun _ heq => absurd heq nofun, hrest⟩

theorem reads_readMarkup (allowCharacterData : Bool) {text : List Char} (hreturn : '\r' ∉ text) :
    Reads (readMarkup allowCharacterData text) text := by
  have htag : ∀ {isEnd : Bool} {c : Char} {rest : List Char} {token : Token} {left : List Char},
      c.isAlpha = true → c :: rest <:+ text → readTag isEnd (c :: rest) = some (token, left) →
      Reads (some token, left) text := by
    intro isEnd c rest token left hletter hsuffix hread
    obtain ⟨htoken, hrest⟩ :=
      readTag_spec hread (fun hmem => hreturn (hsuffix.subset hmem)) hletter
    exact reads_some htoken (hrest.trans hsuffix)
  unfold readMarkup
  split
  · next rest =>
    have hdeclaration := readDeclaration_suffix allowCharacterData rest
    exact reads_some (wellNamed_readDeclaration _ _) (hdeclaration.trans (List.suffix_cons _ _))
  · exact reads_some (wellNamed_of_ne_startTag fun _ _ _ h => Token.noConfusion h) List.nil_suffix
  · next rest => exact reads_none ⟨['/', '>'], rfl⟩
  · next c rest _ =>
    split
    · next hletter =>
      split
      · next hread => exact htag hletter (List.suffix_cons _ _) hread
      · exact reads_none List.nil_suffix
    · exact reads_some (wellNamed_of_ne_startTag fun _ _ _ h => Token.noConfusion h)
        ((afterAngle_suffix _).trans (List.suffix_cons _ _))
  · exact reads_some (wellNamed_of_ne_startTag fun _ _ _ h => Token.noConfusion h)
      ((afterAngle_suffix _).trans (List.suffix_cons _ _))
  · split
    · next hletter =>
      split
      · next hread => exact htag hletter (List.suffix_refl _) hread
      · exact reads_none List.nil_suffix
    · exact reads_some (wellNamed_of_ne_startTag fun _ _ _ h => Token.noConfusion h) (List.suffix_refl _)
  · exact reads_some (wellNamed_of_ne_startTag fun _ _ _ h => Token.noConfusion h) (List.suffix_refl _)

theorem reads_readElementEnd {text : List Char} (hreturn : '\r' ∉ text) :
    Reads (readElementEnd text) text := by
  have hdrop : text.drop 2 <:+ text := List.drop_suffix 2 text
  unfold readElementEnd
  split
  · next token rest hread =>
    unfold readTag at hread
    obtain ⟨⟨attrs, selfClosing, after⟩, hattrs, heq⟩ := Option.map_eq_some_iff.1 hread
    obtain ⟨rfl, rfl⟩ := Prod.mk.inj heq
    have hname := List.dropWhile_suffix (l := text.drop 2)
      fun c => !(isTagBlank c || c == '/' || c == '>')
    obtain ⟨-, hsuffix⟩ := readAttributes_spec _ hattrs
      (fun hmem => hreturn ((hname.trans hdrop).subset hmem))
      (fun _ hmem => absurd hmem List.not_mem_nil)
    exact reads_some (wellNamed_of_ne_startTag fun _ _ _ h => Token.noConfusion h)
      ((hsuffix.trans hname).trans hdrop)
  · exact reads_none List.nil_suffix

theorem reads_readRaw {split : List Char → List Char × List Char}
    {finish : List Char → List Char} {text : List Char} (hsplit : (split text).2 <:+ text)
    (hreturn : '\r' ∉ text) : Reads (readRaw split finish text) text := by
  unfold readRaw
  split
  · exact reads_some (wellNamed_of_ne_startTag fun _ _ _ h => Token.noConfusion h) List.nil_suffix
  · next rest heq =>
    rw [heq] at hsplit
    obtain ⟨htoken, hsuffix⟩ :=
      reads_readElementEnd fun hmem => hreturn (hsplit.subset hmem)
    exact ⟨htoken, hsuffix.trans hsplit⟩
  · next chars rest _ heq =>
    rw [heq] at hsplit
    exact reads_some (wellNamed_of_ne_startTag fun _ _ _ h => Token.noConfusion h) hsplit

/-- **Any text** is cut into tokens with names that are read again when they are written. -/
theorem reads_nextToken (mode : TextMode) (allowCharacterData : Bool) {text : List Char}
    (hreturn : '\r' ∉ text) : Reads (nextToken mode allowCharacterData text) text := by
  cases mode with
  | references element => exact reads_readRaw (readUntilEndTag_suffix element text) hreturn
  | raw element => exact reads_readRaw (readUntilEndTag_suffix element text) hreturn
  | script => exact reads_readRaw (readScript_suffix .plain 0 text) hreturn
  | plaintext =>
      unfold nextToken
      dsimp only
      split
      · exact reads_some (wellNamed_of_ne_startTag fun _ _ _ h => Token.noConfusion h) List.nil_suffix
      · exact reads_some (wellNamed_of_ne_startTag fun _ _ _ h => Token.noConfusion h) List.nil_suffix
  | data =>
      unfold nextToken
      dsimp only
      split
      · exact reads_some (wellNamed_of_ne_startTag fun _ _ _ h => Token.noConfusion h) List.nil_suffix
      · next rest =>
        have hrest : rest <:+ '<' :: rest := List.suffix_cons _ _
        obtain ⟨htoken, hsuffix⟩ :=
          reads_readMarkup allowCharacterData fun hmem => hreturn (hrest.subset hmem)
        exact ⟨htoken, hsuffix.trans hrest⟩
      · next rest =>
        exact reads_some (wellNamed_textToken _)
          ((readReference_cut false rest).suffix.trans (List.suffix_cons _ _))
      · exact reads_some (wellNamed_of_ne_startTag fun _ _ _ h => Token.noConfusion h) (List.suffix_cons _ _)
      · next c rest _ _ _ =>
        exact reads_some (wellNamed_textToken _)
          ((List.dropWhile_suffix _).trans (List.suffix_cons c rest))

end PostPress.Html
