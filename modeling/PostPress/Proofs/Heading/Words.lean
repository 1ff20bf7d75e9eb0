import PostPress.Proofs.Heading.Slug
import PostPress.Proofs.Text.CodePoint

/-!
# PostPress.Proofs.Heading.Words

**The words of a slug, independent of what surrounds them.** A separator ends a word, whichever
separator it is, and what is no letter, digit or separator leaves no trace. So the slug of two
texts with a separator between them is that of the first and that of the second, with a hyphen
between them if both have words (`slugify_append`).

* `slugWords` — the words that hyphens join in a slug;
* `joinSlugs` — two slugs in one.
-/

namespace PostPress

/-! ### Separators -/

/-- No white space character is a letter or digit. -/
theorem Text.isAlphanumeric_of_isBlank {c : Char} (h : isBlank c = true) :
    isAlphanumeric c = false :=
  inRanges_of_all_misses (by decide +kernel) h

theorem isAlphanumeric_of_isSlugSeparator {c : Char} (hc : isSlugSeparator c = true) :
    Text.isAlphanumeric c = false := by
  simp only [isSlugSeparator, Bool.or_eq_true, beq_iff_eq] at hc
  rcases hc with (hblank | rfl) | rfl
  · exact Text.isAlphanumeric_of_isBlank hblank
  · decide
  · decide

theorem slugChars_of_isSlugSeparator {c : Char} (hc : isSlugSeparator c = true) :
    slugChars c = ['-'] := by
  simp [slugChars, isAlphanumeric_of_isSlugSeparator hc, hc]

/-! ### Words -/

/-- The words of a text, which hyphens join in its slug. -/
def slugWords (text : List Char) : List (List Char) :=
  Text.pieces (· == '-') (text.flatMap slugChars)

theorem slugify_eq (text : String) :
    slugify text = String.ofList (['-'].intercalate (slugWords text.toList)) := rfl

/-- A separator cuts a text into two that have their own words. -/
theorem slugWords_append_separator {c : Char} (hc : isSlugSeparator c = true)
    (before after : List Char) :
    slugWords (before ++ c :: after) = slugWords before ++ slugWords after := by
  unfold slugWords
  rw [List.flatMap_append, List.flatMap_cons, slugChars_of_isSlugSeparator hc]
  apply Text.pieces_append_cons
  rfl

/-- A dropped character neither ends a word nor belongs to one. -/
theorem slugWords_append_dropped {c : Char} (hmember : Text.isAlphanumeric c = false)
    (hseparator : isSlugSeparator c = false) (before after : List Char) :
    slugWords (before ++ c :: after) = slugWords (before ++ after) := by
  have hdropped : slugChars c = [] := by
    simp [slugChars, hmember, hseparator]
  simp [slugWords, hdropped]

/-! ### Slugs -/

/-- Two slugs in one: a hyphen joins them if neither is empty. -/
def joinSlugs (first second : String) : String :=
  if first = "" then second
  else if second = "" then first
  else first ++ "-" ++ second

/-- A slug is empty if its text has no words; words are not empty. -/
theorem slugify_eq_empty_iff (text : String) :
    slugify text = "" ↔ slugWords text.toList = [] := by
  rw [slugify_eq, String.ofList_eq_empty_iff]
  apply Text.intercalate_eq_nil_iff
  intro word hword
  exact (of_mem_words hword).1

theorem slugify_of_slugWords {text first second : String}
    (h : slugWords text.toList = slugWords first.toList ++ slugWords second.toList) :
    slugify text = joinSlugs (slugify first) (slugify second) := by
  simp only [joinSlugs, slugify_eq_empty_iff]
  split
  · next hfirst => rw [slugify_eq, h, hfirst, List.nil_append, ← slugify_eq]
  · next hfirst =>
      split
      · next hsecond => rw [slugify_eq, h, hsecond, List.append_nil, ← slugify_eq]
      · next hsecond =>
          calc slugify text
              = String.ofList (['-'].intercalate (slugWords first.toList) ++ ['-'] ++
                  ['-'].intercalate (slugWords second.toList)) := by
                rw [slugify_eq, h, Text.intercalate_append hfirst hsecond]
            _ = slugify first ++ "-" ++ slugify second := by
                rw [String.ofList_append, String.ofList_append, ← slugify_eq, ← slugify_eq]

/-- **Slugs are made part by part.** Two texts with a separator between them have the slugs of
both, joined by one hyphen; two texts with any other character between them that is no letter or
digit have the slug of the two without it. -/
theorem slugify_append (first second : String) :
    (∀ c, isSlugSeparator c = true →
      slugify (first ++ String.singleton c ++ second) =
        joinSlugs (slugify first) (slugify second)) ∧
      ∀ c, Text.isAlphanumeric c = false → isSlugSeparator c = false →
        slugify (first ++ String.singleton c ++ second) = slugify (first ++ second) := by
  have htoList : ∀ c, (first ++ String.singleton c ++ second).toList =
      first.toList ++ c :: second.toList := by
    intro c
    simp
  constructor
  · intro c hc
    apply slugify_of_slugWords
    rw [htoList, slugWords_append_separator hc]
  · intro c hmember hseparator
    rw [slugify_eq, slugify_eq, htoList, slugWords_append_dropped hmember hseparator,
      String.toList_append]

/-- Separators on both sides of a no-break space count as one, and a full stop joins what it
stands between. -/
theorem slugify_append_run :
    (isSlugSeparator '\u00a0' = true ∧
      slugify ("Getting started -" ++ String.singleton '\u00a0' ++ "_ (v2)!") =
        "getting-started-v2") ∧
      Text.isAlphanumeric '.' = false ∧ isSlugSeparator '.' = false ∧
        slugify ("Node" ++ String.singleton '.' ++ "js Setup") = "nodejs-setup" := by
  have hblank : isSlugSeparator '\u00a0' = true := by decide
  have hmember : Text.isAlphanumeric '.' = false := by decide
  have hseparator : isSlugSeparator '.' = false := by decide
  refine ⟨⟨hblank, ?_⟩, hmember, hseparator, ?_⟩
  · rw [(slugify_append "Getting started -" "_ (v2)!").1 _ hblank]
    decide
  · rw [(slugify_append "Node" "js Setup").2 _ hmember hseparator]
    decide

end PostPress
