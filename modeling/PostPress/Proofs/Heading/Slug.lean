import PostPress.Heading.Slug
import PostPress.Proofs.Text.Lowercase
import PostPress.Proofs.Text.Pieces

/-!
# PostPress.Proofs.Heading.Slug

**The shape of slugs.** Hyphens stand alone and between words. The words hold letters and digits in
lower case, with one exception: the dotted capital I becomes an *i* and a combining dot, which is no
letter. A text without that capital has a canonical slug, which is its own slug
(`slugify_canonical_iff`).

* `IsSlugChar` — the characters that a slug keeps as they are;
* `IsCanonicalSlug` — these characters, with hyphens between words only.
-/

namespace PostPress

/-- A hyphen, or a letter or digit that lower-casing leaves unchanged. -/
def IsSlugChar (c : Char) : Prop :=
  c = '-' ∨ Text.isAlphanumeric c = true ∧ Text.lowercase c = [c]

instance : DecidablePred IsSlugChar := fun _ => inferInstanceAs (Decidable (_ ∨ _))

/-- No hyphen is first, last, or next to another one. -/
def SingleHyphens (slug : List Char) : Prop :=
  ∀ before after, slug = before ++ '-' :: after →
    before ≠ [] ∧ after ≠ [] ∧ ∀ rest, after ≠ '-' :: rest

/-- A slug that is made of words in lower case. -/
structure IsCanonicalSlug (slug : List Char) : Prop where
  chars : ∀ c ∈ slug, IsSlugChar c
  hyphens : SingleHyphens slug

/-! ### Single characters -/

theorem slugChars_of_isSlugChar {c : Char} (hc : IsSlugChar c) : slugChars c = [c] := by
  rcases hc with rfl | ⟨hmember, hlower⟩
  · decide +kernel
  · rw [slugChars, if_pos hmember, hlower]

theorem flatMap_slugChars {text : List Char} (h : ∀ c ∈ text, IsSlugChar c) :
    text.flatMap slugChars = text := by
  induction text with
  | nil => rfl
  | cons c rest ih =>
      rw [List.flatMap_cons, slugChars_of_isSlugChar (h c List.mem_cons_self),
        ih fun other hother => h other (List.mem_cons_of_mem _ hother)]
      rfl

theorem not_isSlugChar_dot : ¬IsSlugChar '\u0307' := by
  decide +kernel

theorem of_mem_lowercase {source c : Char} (hsource : Text.isAlphanumeric source = true)
    (hc : c ∈ Text.lowercase source) : IsSlugChar c ∨ c = '\u0307' ∧ source = '\u0130' := by
  by_cases hdotted : source = '\u0130'
  · subst hdotted
    rcases List.mem_cons.1 hc with rfl | hc
    · exact .inl (by decide +kernel)
    · exact .inr ⟨List.mem_singleton.1 hc, rfl⟩
  · obtain ⟨d, hlower, hd⟩ := Text.lowercase_of_isAlphanumeric hdotted hsource
    obtain rfl := List.mem_singleton.1 (hlower ▸ hc)
    exact .inl (.inr hd)

/-! ### Characters of a slug -/

/-- Apart from hyphens, a slug holds the lower-case forms of the letters and digits of its text. -/
theorem mem_slugifyChars_iff {c : Char} (hc : c ≠ '-') (text : List Char) :
    c ∈ slugifyChars text ↔
      ∃ source ∈ text, Text.isAlphanumeric source = true ∧ c ∈ Text.lowercase source := by
  rw [slugifyChars, Text.mem_intercalate_pieces hc, List.mem_flatMap]
  refine exists_congr fun source => and_congr_right fun _ => ?_
  rw [slugChars]
  split
  · next hmember => simp [hmember]
  · next hmember => split <;> simp [hmember, hc]

theorem isSlugChar_or_of_mem {text : List Char} {c : Char} (h : c ∈ slugifyChars text) :
    IsSlugChar c ∨ c = '\u0307' ∧ '\u0130' ∈ text := by
  by_cases hhyphen : c = '-'
  · exact .inl (.inl hhyphen)
  · obtain ⟨source, hsource, hmember, hc⟩ := (mem_slugifyChars_iff hhyphen text).1 h
    refine (of_mem_lowercase hmember hc).imp_right fun ⟨hdot, hdotted⟩ => ⟨hdot, ?_⟩
    exact hdotted ▸ hsource

theorem dot_mem_slugifyChars_iff (text : List Char) :
    '\u0307' ∈ slugifyChars text ↔ '\u0130' ∈ text := by
  constructor
  · intro hdot
    exact ((isSlugChar_or_of_mem hdot).resolve_left not_isSlugChar_dot).2
  · intro hdotted
    rw [mem_slugifyChars_iff (by decide)]
    exact ⟨_, hdotted, by decide +kernel, by decide +kernel⟩

theorem isSlugChar_iff (text : List Char) :
    (∀ c ∈ slugifyChars text, IsSlugChar c) ↔ '\u0130' ∉ text := by
  rw [← dot_mem_slugifyChars_iff]
  constructor
  · intro h hdot
    exact not_isSlugChar_dot (h _ hdot)
  · intro hdot c hc
    exact (isSlugChar_or_of_mem hc).resolve_right fun ⟨heq, _⟩ => hdot (heq ▸ hc)

/-- Lower case holds no capital. -/
theorem dotted_not_mem_slugifyChars (text : List Char) : '\u0130' ∉ slugifyChars text := by
  intro h
  rcases isSlugChar_or_of_mem h with hchar | ⟨heq, -⟩
  · exact absurd hchar (by decide +kernel)
  · exact absurd heq (by decide)

/-! ### Words of a slug -/

theorem of_mem_words {text word : List Char}
    (h : word ∈ Text.pieces (· == '-') (text.flatMap slugChars)) : word ≠ [] ∧ '-' ∉ word := by
  obtain ⟨hne, hchars⟩ := Text.of_mem_pieces h
  exact ⟨hne, fun hmem => absurd (hchars _ hmem).2 (by decide)⟩

theorem singleHyphens_slugifyChars (text : List Char) : SingleHyphens (slugifyChars text) :=
  Text.separators_intercalate fun _ => of_mem_words

/-- A slug is cut into the same words again. -/
theorem slugifyChars_slugifyChars_iff (text : List Char) :
    slugifyChars (slugifyChars text) = slugifyChars text ↔ '\u0130' ∉ text := by
  constructor
  · intro heq hdotted
    have hdot := (dot_mem_slugifyChars_iff text).2 hdotted
    rw [← heq, dot_mem_slugifyChars_iff] at hdot
    exact dotted_not_mem_slugifyChars text hdot
  · intro hdotted
    have hchars := (isSlugChar_iff text).2 hdotted
    calc slugifyChars (slugifyChars text)
        = ['-'].intercalate (Text.pieces (· == '-') (slugifyChars text)) := by
          rw [slugifyChars, flatMap_slugChars hchars]
      _ = slugifyChars text := by
          rw [slugifyChars, Text.pieces_intercalate fun _ => of_mem_words]

/-! ### The slug -/

/-- **Slugs are canonical except for one character.** -/
theorem slugify_canonical_iff (text : String) :
    (IsCanonicalSlug (slugify text).toList ↔ '\u0130' ∉ text.toList) ∧
      (slugify (slugify text) = slugify text ↔ '\u0130' ∉ text.toList) ∧
      SingleHyphens (slugify text).toList ∧
      ∀ c ∈ (slugify text).toList, IsSlugChar c ∨ c = '\u0307' := by
  have hagain : slugify (slugify text) = slugify text ↔
      slugifyChars (slugifyChars text.toList) = slugifyChars text.toList := by
    rw [← String.toList_inj]
    simp only [slugify, String.toList_ofList]
  rw [hagain, slugifyChars_slugifyChars_iff, slugify, String.toList_ofList]
  have hhyphens := singleHyphens_slugifyChars text.toList
  refine ⟨⟨fun h => ?_, fun h => ?_⟩, Iff.rfl, hhyphens, fun c hc => ?_⟩
  · exact (isSlugChar_iff _).1 h.chars
  · exact ⟨(isSlugChar_iff _).2 h, hhyphens⟩
  · exact (isSlugChar_or_of_mem hc).imp_right And.left

/-- The second slug drops the dot that the first one brought. -/
theorem slugify_dotted_capital :
    slugify "\u0130" = "i\u0307" ∧ slugify (slugify "\u0130") = "i" ∧
      ¬IsCanonicalSlug (slugify "\u0130").toList := by
  refine ⟨by decide +kernel, by decide +kernel, fun h => ?_⟩
  exact absurd (h.chars '\u0307' (by decide +kernel)) (by decide +kernel)

end PostPress
