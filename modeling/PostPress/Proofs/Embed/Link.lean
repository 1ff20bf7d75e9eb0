import Mathlib.Data.List.Infix
import PostPress.Embed.Link

/-!
# PostPress.Proofs.Embed.Link

**The resource that a URL names.** It is found at a place of the URL: a run of id characters right
behind a marker, as long as it can be. A search for a marker finds the first such place
(`idAfter_eq_some_iff`), a provider takes its first marker that has one (`resource_eq_some_iff`),
and Drive goes before YouTube (`classify_eq_some_iff`). The URL of a player names the resource that
is played (`classify_frameSrc`).

* `Embed.Place` — an id behind a marker, with all that stands around it;
* `EmbedKind.HostIn`, `EmbedKind.Serves` — a URL with a host of a provider, and one with an id too;
* `Embed.Place.IsSource` — the place that the provider takes the id from.
-/

namespace PostPress

namespace Text

/-! ### Parts of a text -/

theorem occursIn_iff_isInfix (part text : List Char) :
    occursIn part text = true ↔ part <:+: text := by
  induction text with
  | nil => simp [occursIn]
  | cons c rest ih =>
      rw [occursIn, Bool.or_eq_true, List.isPrefixOf_iff_prefix, ih, List.infix_cons_iff]

/-- A part without some character stands before that character or behind it. -/
theorem isInfix_append_cons {part before after : List Char} {c : Char} (hc : c ∉ part)
    (h : part <:+: before ++ c :: after) : part <:+: before ∨ part <:+: after := by
  obtain ⟨front, back, htext⟩ := h
  rcases List.append_eq_append_iff.1 htext with ⟨rest, hbefore, -⟩ | ⟨rest, hpart, hafter⟩
  · exact .inl ⟨front, rest, hbefore.symm⟩
  · cases rest with
    | nil => exact .inl ⟨front, [], by simpa using hpart⟩
    | cons d rest =>
        obtain ⟨rfl, rfl⟩ := List.cons.inj hafter
        rcases List.append_eq_append_iff.1 hpart with ⟨more, -, hmore⟩ | ⟨more, -, hmore⟩
        · exact absurd (hmore ▸ List.mem_append_right more List.mem_cons_self) hc
        · cases more with
          | nil =>
              rw [List.nil_append] at hmore
              exact absurd (hmore ▸ List.mem_cons_self) hc
          | cons e more =>
              obtain ⟨rfl, rfl⟩ := List.cons.inj hmore
              exact .inr ⟨more, back, rfl⟩

end Text

namespace Embed

/-! ### Places -/

/-- A text that can be an id: ASCII letters, digits, underscores and hyphens, at least one. -/
structure IsId (id : List Char) : Prop where
  nonempty : id ≠ []
  chars : ∀ c ∈ id, isIdChar c = true

/-- A place in a URL where an id stands right behind a marker. -/
structure Place (url : List Char) where
  /-- The URL up to the marker. -/
  before : List Char
  /-- The marker. -/
  marker : String
  /-- The id. -/
  id : List Char
  /-- The URL from the end of the id on. -/
  after : List Char
  url_eq : url = before ++ marker.toList ++ (id ++ after)
  isId : IsId id
  /-- The id does not go on. -/
  maximal : ∀ c ∈ after.head?, isIdChar c = false

variable {url : List Char}

namespace Place

/-- No place of the same marker comes before this one. -/
def IsFirst (place : Place url) : Prop :=
  ∀ other : Place url, other.marker = place.marker → place.before.length ≤ other.before.length

theorem takeWhile_eq (place : Place url) :
    (place.id ++ place.after).takeWhile isIdChar = place.id := by
  rw [List.takeWhile_append_of_pos place.isId.chars]
  have hmaximal := place.maximal
  cases hafter : place.after with
  | nil => simp
  | cons c rest =>
      rw [hafter] at hmaximal
      simp [hmaximal c rfl]

/-- The id is all that there is of id characters behind the marker. -/
theorem id_eq (place : Place url) :
    place.id = (url.drop (place.before.length + place.marker.toList.length)).takeWhile isIdChar := by
  have hdrop := congrArg (List.drop (place.before ++ place.marker.toList).length) place.url_eq
  rw [List.drop_left, List.length_append] at hdrop
  rw [hdrop, place.takeWhile_eq]

theorem IsFirst.length_eq {place other : Place url} (hplace : place.IsFirst)
    (hother : other.IsFirst) (hmarker : other.marker = place.marker) :
    other.before.length = place.before.length :=
  Nat.le_antisymm (hother place hmarker.symm) (hplace other hmarker)

theorem IsFirst.id_eq {place other : Place url} (hplace : place.IsFirst) (hother : other.IsFirst)
    (hmarker : other.marker = place.marker) : other.id = place.id := by
  rw [other.id_eq, place.id_eq, hplace.length_eq hother hmarker, hmarker]

theorem mem_of_mem_marker (place : Place url) {c : Char} (hc : c ∈ place.marker.toList) :
    c ∈ url := by
  rw [place.url_eq]
  exact List.mem_append_left _ (List.mem_append_right _ hc)

/-- The place at the very front of a URL. -/
def ofPrefix (marker : String) (hmarker : marker.toList <+: url)
    (hid : (url.drop marker.toList.length).takeWhile isIdChar ≠ []) : Place url where
  before := []
  marker := marker
  id := (url.drop marker.toList.length).takeWhile isIdChar
  after := (url.drop marker.toList.length).dropWhile isIdChar
  url_eq := by
    rw [List.takeWhile_append_dropWhile]
    exact (List.prefix_iff_eq_append.1 hmarker).symm
  isId := ⟨hid, fun c hc => List.all_eq_true.1 List.all_takeWhile c hc⟩
  maximal := by
    intro c hc
    have hhead := List.head?_dropWhile_not isIdChar (url.drop marker.toList.length)
    rw [Option.mem_def.1 hc] at hhead
    exact hhead

/-- The same place, with one character more before it. -/
def cons (c : Char) (place : Place url) : Place (c :: url) where
  before := c :: place.before
  marker := place.marker
  id := place.id
  after := place.after
  url_eq := congrArg (c :: ·) place.url_eq
  isId := place.isId
  maximal := place.maximal

/-- A place is at the very front, or it is one of the rest of the URL. -/
theorem before_eq_nil_or {c : Char} (place : Place (c :: url)) :
    place.before = [] ∨ ∃ inner : Place url, place = inner.cons c := by
  obtain ⟨before, marker, id, after, hurl, hid, hmaximal⟩ := place
  cases before with
  | nil => exact .inl rfl
  | cons d before =>
      obtain ⟨rfl, hrest⟩ := List.cons.inj hurl
      exact .inr ⟨⟨before, marker, id, after, hrest, hid, hmaximal⟩, rfl⟩

end Place

/-! ### The search for a marker -/

theorem idAfter_cons (marker rest : List Char) (c : Char) :
    idAfter marker (c :: rest) =
      if marker.isPrefixOf (c :: rest) &&
          !(((c :: rest).drop marker.length).takeWhile isIdChar).isEmpty then
        some (((c :: rest).drop marker.length).takeWhile isIdChar)
      else idAfter marker rest := rfl

/-- What the search looks for at each step is a place at the very front. -/
theorem isPrefixOf_and_iff (marker : String) (url : List Char) :
    (marker.toList.isPrefixOf url &&
        !((url.drop marker.toList.length).takeWhile isIdChar).isEmpty) = true ↔
      ∃ place : Place url, place.marker = marker ∧ place.before = [] := by
  rw [Bool.and_eq_true, List.isPrefixOf_iff_prefix, Bool.not_eq_true', List.isEmpty_eq_false_iff]
  constructor
  · rintro ⟨hmarker, hid⟩
    exact ⟨.ofPrefix marker hmarker hid, rfl, rfl⟩
  · rintro ⟨place, rfl, hbefore⟩
    have hurl := place.url_eq
    have hid := place.id_eq
    rw [hbefore, List.nil_append] at hurl
    rw [hbefore, List.length_nil, Nat.zero_add] at hid
    exact ⟨⟨_, hurl.symm⟩, hid ▸ place.isId.nonempty⟩

theorem marker_ne_of_idAfter {marker : String} (h : idAfter marker.toList url = none)
    (place : Place url) : place.marker ≠ marker := by
  induction url with
  | nil =>
      have hurl := place.url_eq
      simp only [List.nil_eq, List.append_eq_nil_iff] at hurl
      exact absurd hurl.2.1 place.isId.nonempty
  | cons c rest ih =>
      rw [idAfter_cons] at h
      split at h
      · exact absurd h nofun
      · next hfront =>
          intro hmarker
          rcases place.before_eq_nil_or with hbefore | ⟨inner, rfl⟩
          · exact hfront ((isPrefixOf_and_iff ..).2 ⟨place, hmarker, hbefore⟩)
          · exact ih h inner hmarker

theorem exists_place_of_idAfter {marker : String} {id : List Char}
    (h : idAfter marker.toList url = some id) :
    ∃ place : Place url, place.marker = marker ∧ place.IsFirst ∧ place.id = id := by
  induction url with
  | nil => exact absurd h nofun
  | cons c rest ih =>
      rw [idAfter_cons] at h
      split at h
      · next hfront =>
          obtain ⟨place, rfl, hbefore⟩ := (isPrefixOf_and_iff ..).1 hfront
          refine ⟨place, rfl, fun other _ => by simp [hbefore], ?_⟩
          rw [place.id_eq, hbefore, List.length_nil, Nat.zero_add]
          exact Option.some.inj h
      · next hfront =>
          obtain ⟨inner, rfl, hfirst, hid⟩ := ih h
          refine ⟨inner.cons c, rfl, fun other hother => ?_, hid⟩
          rcases other.before_eq_nil_or with hbefore | ⟨otherInner, rfl⟩
          · exact absurd ((isPrefixOf_and_iff ..).2 ⟨other, hother, hbefore⟩) hfront
          · exact Nat.succ_le_succ (hfirst otherInner hother)

theorem idAfter_eq_none_iff {marker : String} :
    idAfter marker.toList url = none ↔ ∀ place : Place url, place.marker ≠ marker := by
  refine ⟨marker_ne_of_idAfter, fun h => ?_⟩
  cases hid : idAfter marker.toList url with
  | none => rfl
  | some id =>
      obtain ⟨place, hmarker, -⟩ := exists_place_of_idAfter hid
      exact absurd hmarker (h place)

/-- **A search finds the id at the first place of its marker.** -/
theorem idAfter_eq_some_iff {marker : String} {id : List Char} :
    idAfter marker.toList url = some id ↔
      ∃ place : Place url, place.marker = marker ∧ place.IsFirst ∧ place.id = id := by
  refine ⟨exists_place_of_idAfter, ?_⟩
  rintro ⟨place, rfl, hfirst, rfl⟩
  cases hid : idAfter place.marker.toList url with
  | none => exact absurd rfl (marker_ne_of_idAfter hid place)
  | some id =>
      obtain ⟨other, hmarker, hother, rfl⟩ := exists_place_of_idAfter hid
      rw [hfirst.id_eq hother hmarker]

end Embed

/-! ### Providers -/

namespace EmbedKind

/-- A URL holds a host of a provider. -/
def HostIn (kind : EmbedKind) (url : List Char) : Prop :=
  ∃ host ∈ kind.hosts, host.toList <:+: url

instance (kind : EmbedKind) (url : List Char) : Decidable (kind.HostIn url) :=
  inferInstanceAs (Decidable (∃ host ∈ kind.hosts, host.toList <:+: url))

/-- A URL holds a host of a provider, and an id behind one of its markers. -/
def Serves (kind : EmbedKind) (url : List Char) : Prop :=
  kind.HostIn url ∧ ∃ place : Embed.Place url, place.marker ∈ kind.markers

theorem hostIn_iff (kind : EmbedKind) (url : List Char) :
    (kind.hosts.any fun host => Text.occursIn host.toList url) = true ↔ kind.HostIn url := by
  simp only [List.any_eq_true, Text.occursIn_iff_isInfix]
  rfl

end EmbedKind

namespace Embed

variable {url : List Char}

/-- The place that a provider takes the id from: its marker is the first of the list that has an
id behind it anywhere, and the place is the first one of this marker. -/
structure Place.IsSource (kind : EmbedKind) (place : Place url) : Prop where
  chosen : ∃ earlier later, kind.markers = earlier ++ place.marker :: later ∧
    ∀ other : Place url, other.marker ∉ earlier
  first : place.IsFirst

theorem resource_eq_some_iff {kind : EmbedKind} {id : List Char} :
    resource kind url = some id ↔
      kind.HostIn url ∧ ∃ place : Place url, place.IsSource kind ∧ place.id = id := by
  rw [resource, ← EmbedKind.hostIn_iff]
  split
  · next hhost =>
      rw [and_iff_right hhost, List.findSome?_eq_some_iff]
      constructor
      · rintro ⟨earlier, marker, later, hmarkers, hid, hearlier⟩
        obtain ⟨place, rfl, hfirst, rfl⟩ := idAfter_eq_some_iff.1 hid
        refine ⟨place, ⟨⟨earlier, later, hmarkers, fun other hother => ?_⟩, hfirst⟩, rfl⟩
        exact idAfter_eq_none_iff.1 (hearlier _ hother) other rfl
      · rintro ⟨place, ⟨⟨earlier, later, hmarkers, hearlier⟩, hfirst⟩, rfl⟩
        refine ⟨earlier, place.marker, later, hmarkers, ?_, fun marker hmarker => ?_⟩
        · exact idAfter_eq_some_iff.2 ⟨place, rfl, hfirst, rfl⟩
        · exact idAfter_eq_none_iff.2 fun other hother => hearlier other (hother ▸ hmarker)
  · next hhost => simp [hhost]

theorem resource_eq_none_iff {kind : EmbedKind} :
    resource kind url = none ↔ ¬kind.Serves url := by
  rw [resource, EmbedKind.Serves, ← EmbedKind.hostIn_iff]
  split
  · next hhost =>
      rw [and_iff_right hhost, List.findSome?_eq_none_iff]
      simp only [idAfter_eq_none_iff]
      constructor
      · rintro hnone ⟨place, hmarker⟩
        exact hnone _ hmarker place rfl
      · intro hnone marker hmarker place hplace
        exact hnone ⟨place, hplace ▸ hmarker⟩
  · next hhost => simp [hhost]

theorem exists_isSource {kind : EmbedKind} (h : kind.Serves url) :
    ∃ place : Place url, place.IsSource kind := by
  cases hid : resource kind url with
  | none => exact absurd h (resource_eq_none_iff.1 hid)
  | some id =>
      obtain ⟨-, place, hsource, -⟩ := resource_eq_some_iff.1 hid
      exact ⟨place, hsource⟩

end Embed

/-! ### URLs -/

theorem classify_eq_none_iff {url : String} :
    classify url = none ↔ ∀ kind, Embed.resource kind url.toList = none := by
  rw [classify, List.findSome?_eq_none_iff]
  simp only [Option.map_eq_none_iff]
  constructor
  · intro h kind
    cases kind with
    | googleDrive => exact h _ (by simp)
    | youTube => exact h _ (by simp)
  · exact fun h kind _ => h kind

/-- Drive is asked before YouTube. -/
theorem classify_eq_some_iff {url : String} {embed : Embed} :
    classify url = some embed ↔
      Embed.resource embed.kind url.toList = some embed.resourceId.toList ∧
        (embed.kind = .youTube → Embed.resource .googleDrive url.toList = none) := by
  obtain ⟨kind, id⟩ := embed
  have hid : ∀ {chars}, String.ofList chars = id ↔ chars = id.toList := by
    intro chars
    rw [← String.toList_inj, String.toList_ofList]
  cases hdrive : Embed.resource .googleDrive url.toList with
  | some file => cases kind <;> simp [classify, hdrive, hid]
  | none => cases kind <;> simp [classify, hdrive, hid]

/-- The URL of a file on Drive names what its source does. -/
theorem classify_eq_googleDrive_iff {url id : String} :
    classify url = some ⟨.googleDrive, id⟩ ↔
      EmbedKind.googleDrive.HostIn url.toList ∧ ∃ place : Embed.Place url.toList,
        place.IsSource .googleDrive ∧ String.ofList place.id = id := by
  rw [classify_eq_some_iff, and_iff_left nofun, Embed.resource_eq_some_iff]
  simp only [← String.toList_inj, String.toList_ofList]

namespace Embed

/-! ### The URL of a player -/

variable {url : List Char}

/-- A place comes first if the marker begins nowhere before it, up to where the id does. -/
theorem Place.isFirst_of_drop {place : Place url}
    (h : ∀ n < place.before.length,
      ¬place.marker.toList <+: (place.before ++ place.marker.toList).drop n) : place.IsFirst := by
  intro other hother
  by_contra hlt
  refine h other.before.length (by omega) ?_
  have hmarked : place.marker.toList <+:
      (place.before ++ place.marker.toList).drop other.before.length ++
        (place.id ++ place.after) := by
    rw [← List.drop_append_of_le_length (by simp; omega), ← place.url_eq, ← hother]
    have hdrop := congrArg (List.drop other.before.length) other.url_eq
    rw [List.append_assoc, List.drop_left] at hdrop
    exact ⟨_, hdrop.symm⟩
  -- There is room for the marker before the id, so it does not reach into it.
  refine List.prefix_of_prefix_length_le hmarked (List.prefix_append _ _) ?_
  rw [List.length_drop, List.length_append]
  omega

theorem toList_frameSrc (embed : Embed) :
    embed.frameSrc.toList =
      embed.kind.frame.1.toList ++ (embed.resourceId.toList ++ embed.kind.frame.2.toList) := by
  simp [frameSrc]

/-- The URL of a player up to the id: the marker there, and what stands before it. -/
def frameMarker : EmbedKind → String × String
  | .googleDrive => ("https://drive.google.com", "/file/d/")
  | .youTube => ("https://www.", "youtube.com/embed/")

theorem frame_eq (kind : EmbedKind) :
    kind.frame.1.toList = (frameMarker kind).1.toList ++ (frameMarker kind).2.toList := by
  cases kind <;> decide

theorem head?_frame (kind : EmbedKind) :
    kind.frame.2.toList.head? = none ∨ kind.frame.2.toList.head? = some '/' := by
  cases kind <;> decide

/-- The place of the id in the URL of a player. -/
def framePlace {embed : Embed} (hid : IsId embed.resourceId.toList) :
    Place embed.frameSrc.toList where
  before := (frameMarker embed.kind).1.toList
  marker := (frameMarker embed.kind).2
  id := embed.resourceId.toList
  after := embed.kind.frame.2.toList
  url_eq := by rw [toList_frameSrc, frame_eq]
  isId := hid
  maximal := by
    intro c hc
    rw [Option.mem_def] at hc
    rcases head?_frame embed.kind with hhead | hhead
    · exact absurd (hhead.symm.trans hc) nofun
    · obtain rfl := Option.some.inj (hhead.symm.trans hc)
      rfl

theorem isFirst_framePlace {embed : Embed} (hid : IsId embed.resourceId.toList) :
    (framePlace hid).IsFirst := by
  apply Place.isFirst_of_drop
  simp only [framePlace]
  generalize embed.kind = kind
  cases kind <;> decide

/-- The markers that go before that of the player have a question mark. -/
theorem exists_markers_eq (kind : EmbedKind) :
    ∃ earlier later, kind.markers = earlier ++ (frameMarker kind).2 :: later ∧
      ∀ marker ∈ earlier, '?' ∈ marker.toList := by
  cases kind with
  | googleDrive => exact ⟨[], _, rfl, nofun⟩
  | youTube => exact ⟨["youtube.com/watch?v="], _, rfl, by decide⟩

theorem notMem_frameSrc {embed : Embed} (hid : IsId embed.resourceId.toList) :
    '?' ∉ embed.frameSrc.toList := by
  have hframe : ∀ kind : EmbedKind, '?' ∉ kind.frame.1.toList ∧ '?' ∉ kind.frame.2.toList := by
    intro kind
    cases kind <;> decide
  rw [toList_frameSrc, List.mem_append, List.mem_append]
  rintro (hfront | hmem | hback)
  · exact (hframe _).1 hfront
  · exact absurd (hid.chars _ hmem) (by decide)
  · exact (hframe _).2 hback

theorem isSource_framePlace {embed : Embed} (hid : IsId embed.resourceId.toList) :
    (framePlace hid).IsSource embed.kind := by
  obtain ⟨earlier, later, hmarkers, hquestion⟩ := exists_markers_eq embed.kind
  refine ⟨⟨earlier, later, hmarkers, fun other hother => ?_⟩, isFirst_framePlace hid⟩
  exact notMem_frameSrc hid (other.mem_of_mem_marker (hquestion _ hother))

theorem hostIn_frameSrc (embed : Embed) : embed.kind.HostIn embed.frameSrc.toList := by
  have hfront : ∀ kind : EmbedKind, ∃ host ∈ kind.hosts, host.toList <:+: kind.frame.1.toList := by
    intro kind
    cases kind <;> decide
  obtain ⟨host, hhost, hpart⟩ := hfront embed.kind
  rw [toList_frameSrc]
  exact ⟨host, hhost, hpart.trans (List.infix_append' [] _ _)⟩

/-- The URL of a video has no host of Drive: it would have to be in the id, which has no dot. -/
theorem not_hostIn_frameSrc {embed : Embed} (hkind : embed.kind = .youTube)
    (hid : IsId embed.resourceId.toList) : ¬EmbedKind.googleDrive.HostIn embed.frameSrc.toList := by
  have hhosts : ∀ host ∈ EmbedKind.googleDrive.hosts, '/' ∉ host.toList ∧ '.' ∈ host.toList ∧
      ¬host.toList <:+: "https://www.youtube.com/embed".toList := by
    decide
  have hframe : EmbedKind.youTube.frame.1.toList = "https://www.youtube.com/embed".toList ++ ['/'] ∧
      EmbedKind.youTube.frame.2.toList = [] := by
    decide
  rintro ⟨host, hhost, hpart⟩
  obtain ⟨hslash, hdot, hfront⟩ := hhosts host hhost
  rw [toList_frameSrc, hkind, hframe.1, hframe.2, List.append_nil, List.append_assoc] at hpart
  rcases Text.isInfix_append_cons hslash hpart with hpart | hpart
  · exact hfront hpart
  · exact absurd (hid.chars _ (hpart.mem hdot)) (by decide)

theorem classify_frameSrc {embed : Embed} (hid : IsId embed.resourceId.toList) :
    classify embed.frameSrc = some embed := by
  refine classify_eq_some_iff.2 ⟨?_, fun hkind => ?_⟩
  · exact resource_eq_some_iff.2
      ⟨hostIn_frameSrc embed, framePlace hid, isSource_framePlace hid, rfl⟩
  · exact resource_eq_none_iff.2 fun hserves => not_hostIn_frameSrc hkind hid hserves.1

end Embed

/-! ### The main theorem -/

/-- **What a URL names.** A provider of which the URL holds a host names the id at the place that
it takes it from, YouTube only if Drive does not serve the URL, and a URL that no provider serves
names nothing. The URL of the player for an id names that id again. -/
theorem classify_names :
    (∀ url : String,
      (∀ embed, classify url = some embed ↔
        embed.kind.HostIn url.toList ∧
          (∃ place : Embed.Place url.toList,
            place.IsSource embed.kind ∧ String.ofList place.id = embed.resourceId) ∧
          (embed.kind = .youTube → ¬EmbedKind.googleDrive.Serves url.toList)) ∧
      (EmbedKind.googleDrive.Serves url.toList →
        ∃ id, classify url = some ⟨.googleDrive, id⟩) ∧
      (classify url = none ↔ ∀ kind : EmbedKind, ¬kind.Serves url.toList)) ∧
    ∀ embed : Embed, Embed.IsId embed.resourceId.toList →
      classify embed.frameSrc = some embed := by
  refine ⟨fun url => ⟨fun embed => ?_, fun hserves => ?_, ?_⟩, fun _ => Embed.classify_frameSrc⟩
  · rw [classify_eq_some_iff, Embed.resource_eq_some_iff, Embed.resource_eq_none_iff, and_assoc]
    simp only [← String.toList_inj, String.toList_ofList]
  · obtain ⟨place, hsource⟩ := Embed.exists_isSource hserves
    exact ⟨_, classify_eq_googleDrive_iff.2 ⟨hserves.1, place, hsource, rfl⟩⟩
  · simp only [classify_eq_none_iff, Embed.resource_eq_none_iff]

/-- A URL with hosts of both providers names a file, and the URL of a player names its id also if
that looks like the rest of a marker. -/
theorem classify_names_both :
    let url := "https://youtu.be/B?next=https://docs.google.com/open?id=A-1"
    (EmbedKind.googleDrive.Serves url.toList ∧
      ∃ id, classify url = some ⟨.googleDrive, id⟩) ∧
    Embed.IsId "v-id_d".toList ∧
      classify (Embed.frameSrc ⟨.youTube, "v-id_d"⟩) = some ⟨.youTube, "v-id_d"⟩ := by
  intro url
  have hserves : EmbedKind.googleDrive.Serves url.toList := by
    by_contra hnone
    exact absurd (Embed.resource_eq_none_iff.2 hnone) (by decide)
  have hid : Embed.IsId "v-id_d".toList := ⟨by decide, List.all_eq_true.1 (by decide)⟩
  exact ⟨⟨hserves, (classify_names.1 url).2.1 hserves⟩, hid, classify_names.2 ⟨_, _⟩ hid⟩

end PostPress
