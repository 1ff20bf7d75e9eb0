import PostPress.Proofs.Embed.Link

/-!
# PostPress.Proofs.Embed.File

**The file that a Drive URL names.** A file is named behind `/d/` in the path, or by the parameter
`id` of the query. But `id=` is searched for wherever it stands, and before `/d/`. So the end of
another parameter is taken for the file if it comes first, unless an id stands behind `/file/d/`
(`drive_file_iff`).

* `Embed.Place.IsPath`, `Embed.Place.IsParameter` — places that name a file;
* `Embed.MisleadsDrive` — URLs of which another parameter is taken.
-/

namespace PostPress

namespace Embed

variable {url : List Char}

namespace Place

/-- What stands in the URL before the id. -/
def front (place : Place url) : List Char := place.before ++ place.marker.toList

/-- The id stands behind `/d/`. -/
def IsPath (place : Place url) : Prop := "/d/".toList <:+ place.front

/-- The id is the value of a parameter, and `id` is its whole name. -/
def IsParameter (place : Place url) : Prop :=
  "?id=".toList <:+ place.front ∨ "&id=".toList <:+ place.front

theorem marker_isSuffix_front (place : Place url) : place.marker.toList <:+ place.front :=
  List.suffix_append ..

theorem front_append (place : Place url) : place.front ++ (place.id ++ place.after) = url :=
  place.url_eq.symm

/-- What stands before the first place of a marker is the same for all such places. -/
theorem IsFirst.front_eq {place other : Place url} (hplace : place.IsFirst)
    (hother : other.IsFirst) (hmarker : other.marker = place.marker) :
    other.front = place.front := by
  have hlength : other.front.length = place.front.length := by
    simp only [front, List.length_append, hmarker, hplace.length_eq hother hmarker]
  exact (List.append_inj (other.front_append.trans place.front_append.symm) hlength).1

/-- An id that stands behind a mark is at a place of this mark. -/
theorem exists_of_isSuffix {mark : String} {place : Place url}
    (h : mark.toList <:+ place.front) :
    ∃ other : Place url, other.marker = mark ∧ other.id = place.id := by
  obtain ⟨before, hfront⟩ := h
  refine ⟨⟨before, mark, place.id, place.after, ?_, place.isId, place.maximal⟩, rfl, rfl⟩
  rw [hfront, place.front_append]

/-- The id and a mark that it stands behind are a part of the URL. -/
theorem isInfix_of_isSuffix {mark : List Char} {place : Place url} (h : mark <:+ place.front) :
    mark ++ place.id <:+: url := by
  obtain ⟨before, hfront⟩ := h
  refine ⟨before, place.after, ?_⟩
  rw [← List.append_assoc, hfront, List.append_assoc, place.front_append]

theorem IsParameter.exists_isInfix {place : Place url} (h : place.IsParameter) :
    ∃ mark ∈ ["?id=", "&id="], mark.toList ++ place.id <:+: url := by
  rcases h with hmark | hmark
  · exact ⟨"?id=", by simp, isInfix_of_isSuffix hmark⟩
  · exact ⟨"&id=", by simp, isInfix_of_isSuffix hmark⟩

theorem isPath_of_marker {place : Place url}
    (hmarker : place.marker = "/file/d/" ∨ place.marker = "/d/") : place.IsPath := by
  have hfront := place.marker_isSuffix_front
  rcases hmarker with hmarker | hmarker
  · rw [hmarker] at hfront
    exact .trans (by decide) hfront
  · rwa [hmarker] at hfront

/-- What ends in `id=` does not end in `/d/`. -/
theorem not_isPath_of_marker {place : Place url} (hmarker : place.marker = "id=") :
    ¬place.IsPath := by
  intro hpath
  have hid := place.marker_isSuffix_front
  rw [hmarker] at hid
  have hsuffix := List.suffix_of_suffix_length_le hpath hid (by decide)
  exact absurd hsuffix (by decide)

/-! ### The source on Drive -/

/-- The three markers of Drive, each with what it means for those before it. -/
theorem IsSource.marker_cases {place : Place url} (h : place.IsSource .googleDrive) :
    place.marker = "/file/d/" ∨
      (∀ other : Place url, other.marker ≠ "/file/d/") ∧
        (place.marker = "id=" ∨
          place.marker = "/d/" ∧ ∀ other : Place url, other.marker ≠ "id=") := by
  obtain ⟨earlier, later, hmarkers, hnone⟩ := h.chosen
  have hne : ∀ marker ∈ earlier, ∀ other : Place url, other.marker ≠ marker := by
    rintro marker hmarker other rfl
    exact hnone other hmarker
  cases earlier with
  | nil =>
      simp only [EmbedKind.markers, List.nil_append, List.cons.injEq] at hmarkers
      exact .inl hmarkers.1.symm
  | cons first earlier =>
      simp only [EmbedKind.markers, List.cons_append, List.cons.injEq] at hmarkers
      obtain ⟨rfl, hmarkers⟩ := hmarkers
      refine .inr ⟨hne _ (by simp), ?_⟩
      cases earlier with
      | nil =>
          simp only [List.nil_append, List.cons.injEq] at hmarkers
          exact .inl hmarkers.1.symm
      | cons second earlier =>
          simp only [List.cons_append, List.cons.injEq] at hmarkers
          obtain ⟨rfl, hmarkers⟩ := hmarkers
          cases earlier with
          | nil =>
              simp only [List.nil_append, List.cons.injEq] at hmarkers
              exact .inr ⟨hmarkers.1.symm, hne _ (by simp)⟩
          | cons third earlier => simp at hmarkers

end Place

/-- No id stands behind `/file/d/`, and the first one behind `id=` is not the value of the parameter
`id`: its parameter has a longer name. -/
def MisleadsDrive (url : List Char) : Prop :=
  (∀ place : Place url, place.marker ≠ "/file/d/") ∧
    ∃ place : Place url, place.marker = "id=" ∧ place.IsFirst ∧ ¬place.IsParameter

/-- The source names a file, unless the URL misleads. -/
theorem Place.IsSource.names_iff {place : Place url} (h : place.IsSource .googleDrive) :
    place.IsPath ∨ place.IsParameter ↔ ¬MisleadsDrive url := by
  constructor
  · rintro hnames ⟨hfile, other, hmarker, hfirst, hother⟩
    rcases h.marker_cases with hplace | ⟨-, hplace | ⟨-, hnone⟩⟩
    · exact hfile place hplace
    · have hfront := hfirst.front_eq h.first (hplace.trans hmarker.symm)
      rcases hnames with hpath | hparameter
      · exact not_isPath_of_marker hplace hpath
      · unfold IsParameter at hparameter hother
        rw [hfront] at hparameter
        exact hother hparameter
    · exact hnone other hmarker
  · intro hleads
    rcases h.marker_cases with hplace | ⟨hfile, hplace | ⟨hplace, -⟩⟩
    · exact .inl (isPath_of_marker (.inl hplace))
    · by_contra hnames
      exact hleads ⟨hfile, place, hplace, h.first, fun hparameter => hnames (.inr hparameter)⟩
    · exact .inl (isPath_of_marker (.inr hplace))

end Embed

/-- **When a Drive URL names its file.** Exactly if it does not mislead, the id is that behind
`/d/` or of the parameter `id`, and a URL with an id behind `/d/` and without this parameter names
such an id. -/
theorem drive_file_iff (url : String) (hhost : EmbedKind.googleDrive.HostIn url.toList) :
    ((∀ id, classify url = some ⟨.googleDrive, id⟩ →
        ∃ place : Embed.Place url.toList, place.IsSource .googleDrive ∧
          String.ofList place.id = id ∧ (place.IsPath ∨ place.IsParameter)) ∧
      ((∃ place : Embed.Place url.toList, place.IsPath) →
        (∀ place : Embed.Place url.toList, ¬place.IsParameter) →
          ∃ place : Embed.Place url.toList, place.IsPath ∧
            classify url = some ⟨.googleDrive, String.ofList place.id⟩)) ↔
      ¬Embed.MisleadsDrive url.toList := by
  have hsource : ∀ other : Embed.Place url.toList, other.marker ∈ EmbedKind.googleDrive.markers →
      ∃ place : Embed.Place url.toList, place.IsSource .googleDrive ∧
        classify url = some ⟨.googleDrive, String.ofList place.id⟩ := by
    intro other hmarker
    obtain ⟨place, hsource⟩ := Embed.exists_isSource ⟨hhost, other, hmarker⟩
    exact ⟨place, hsource, classify_eq_googleDrive_iff.2 ⟨hhost, place, hsource, rfl⟩⟩
  constructor
  · rintro ⟨htaken, -⟩ hmisleads
    obtain ⟨other, hmarker, -⟩ := hmisleads.2
    obtain ⟨source, -, hid⟩ := hsource other (by simp [hmarker, EmbedKind.markers])
    obtain ⟨place, hplace, -, hnames⟩ := htaken _ hid
    exact hplace.names_iff.1 hnames hmisleads
  · intro hleads
    constructor
    · intro id hid
      obtain ⟨-, place, hplace, heq⟩ := classify_eq_googleDrive_iff.1 hid
      exact ⟨place, hplace, heq, hplace.names_iff.2 hleads⟩
    · rintro ⟨path, hpath⟩ hparameter
      obtain ⟨other, hmarker, -⟩ := Embed.Place.exists_of_isSuffix hpath
      obtain ⟨place, hplace, hid⟩ := hsource other (by simp [hmarker, EmbedKind.markers])
      exact ⟨place, (hplace.names_iff.2 hleads).resolve_right (hparameter place), hid⟩

/-- A file behind `/file/d/` is named whatever parameters follow. -/
theorem drive_file_iff_file :
    let url := "https://drive.google.com/file/d/XYZ/view?gid=7"
    EmbedKind.googleDrive.HostIn url.toList ∧ ¬Embed.MisleadsDrive url.toList ∧
      ∃ place : Embed.Place url.toList, place.IsPath ∧
        classify url = some ⟨.googleDrive, String.ofList place.id⟩ := by
  intro url
  have hhost : EmbedKind.googleDrive.HostIn url.toList := by decide
  obtain ⟨file, hmarker, -⟩ := Embed.idAfter_eq_some_iff.1
    (show Embed.idAfter "/file/d/".toList url.toList = some "XYZ".toList by decide)
  have hleads : ¬Embed.MisleadsDrive url.toList := fun hmisleads => hmisleads.1 file hmarker
  have habsent : ∀ mark ∈ ["?id=", "&id="], ¬mark.toList <:+: url.toList := by decide
  refine ⟨hhost, hleads, ((drive_file_iff url hhost).2 hleads).2 ?_ fun place hparameter => ?_⟩
  · exact ⟨file, Embed.Place.isPath_of_marker (.inl hmarker)⟩
  · obtain ⟨mark, hmark, hpart⟩ := hparameter.exists_isInfix
    exact habsent mark hmark ((List.prefix_append ..).isInfix.trans hpart)

/-- The link of a sheet in a table of several: the sheet's number is taken for the file. -/
theorem drive_file_of_sheet :
    let url := "https://docs.google.com/spreadsheets/d/ABC/edit#gid=7"
    classify url = some ⟨.googleDrive, "7"⟩ ∧
      (∃ place : Embed.Place url.toList, place.IsPath ∧ place.id = "ABC".toList) ∧
      ¬∃ place : Embed.Place url.toList,
        place.id = "7".toList ∧ (place.IsPath ∨ place.IsParameter) := by
  intro url
  refine ⟨by decide, ?_, ?_⟩
  · obtain ⟨file, hmarker, -, hid⟩ := Embed.idAfter_eq_some_iff.1
      (show Embed.idAfter "/d/".toList url.toList = some "ABC".toList by decide)
    exact ⟨file, Embed.Place.isPath_of_marker (.inr hmarker), hid⟩
  · rintro ⟨place, hid, hpath | hparameter⟩
    · have hpart := Embed.Place.isInfix_of_isSuffix hpath
      rw [hid] at hpart
      exact absurd hpart (by decide)
    · obtain ⟨mark, hmark, hpart⟩ := hparameter.exists_isInfix
      have habsent : ∀ mark ∈ ["?id=", "&id="],
          ¬mark.toList ++ "7".toList <:+: url.toList := by decide
      rw [hid] at hpart
      exact habsent mark hmark hpart

end PostPress
