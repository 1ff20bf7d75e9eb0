import Mathlib.Algebra.Order.Ring.Unbundled.Rat
import PostPress.Proofs.Scroll.Report
import PostPress.Proofs.Scroll.Run

/-!
# PostPress.Proofs.Scroll.Following

**The active heading while a page is scrolled.** The page reports only headings whose
state has changed, and the tracker does not remember earlier reports. So it follows
the topmost of the headings in view that are *reported*, which need not be the topmost
of all that are in view (`Tracker.activeId_following`).

* `Tracker.following` — a tracker after the first reports and some scrolling;
* `Tracker.Observing` — what holds of it at every moment;
* `Tracker.activeId_takeRecords` — what one batch can do;
* `ScrollLayout.Topmost` — the heading nearest the top, among some.
-/

namespace PostPress

universe u

namespace ScrollLayout

/-- The upper edge of a heading, relative to the viewport; zero if it is not placed. -/
def offset (layout : ScrollLayout Rat) (id : String) : Rat := (layout.topOf id).getD 0

/-- The heading nearest the top among those with a property; of two at one height the
one that comes first in the document. -/
structure Topmost (layout : ScrollLayout Rat) (ids : List String) (among : String → Prop)
    (id : String) : Prop where
  /-- It is a heading of the document. -/
  mem : id ∈ ids
  /-- It has the property. -/
  qualifies : among id
  /-- No other one is nearer, or as near and earlier. -/
  nearest : ∀ other ∈ ids, among other → layout.offset id < layout.offset other ∨
    layout.offset id = layout.offset other ∧ ids.idxOf id ≤ ids.idxOf other

theorem Topmost.unique {layout : ScrollLayout Rat} {ids : List String} {among : String → Prop}
    {id other : String} (h : layout.Topmost ids among id)
    (hother : layout.Topmost ids among other) : id = other := by
  have hforth := h.nearest other hother.mem hother.qualifies
  have hback := hother.nearest id h.mem h.qualifies
  have hposition : ids.idxOf id = ids.idxOf other := by
    rcases hforth with hforth | ⟨heq, hforth⟩ <;> rcases hback with hback | ⟨heq', hback⟩
    · exact absurd (hforth.trans hback) (lt_irrefl _)
    · exact absurd hforth (heq'.symm ▸ lt_irrefl _)
    · exact absurd hback (heq.symm ▸ lt_irrefl _)
    · exact le_antisymm hforth hback
  exact (List.idxOf_inj h.mem).1 hposition

/-- The topmost of some headings is the topmost of fewer, if it is one of them. -/
theorem Topmost.mono {layout : ScrollLayout Rat} {ids : List String}
    {among fewer : String → Prop} {id : String} (h : layout.Topmost ids among id)
    (hfewer : fewer id) (hsub : ∀ other ∈ ids, fewer other → among other) :
    layout.Topmost ids fewer id :=
  ⟨h.mem, hfewer, fun other hother hin => h.nearest other hother (hsub other hother hin)⟩

end ScrollLayout

/-! ### The order of rational positions -/

theorem compare_rat (a b : Rat) : Coordinate.compare a b = compare a b :=
  (LinearOrder.compare_eq_compareOfLessAndEq a b).symm

instance : Std.TransCmp (Coordinate.compare : Rat → Rat → Ordering) := by
  have h : (Coordinate.compare : Rat → Rat → Ordering) = compare :=
    funext fun a => funext (compare_rat a)
  rw [h]
  infer_instance

/-- Reports are in order by their tops, then by their positions. -/
theorem isLE_compare_then {a b : Rat} {m n : Nat} :
    ((Coordinate.compare a b).then (compare m n)).isLE = true ↔ a < b ∨ a = b ∧ m ≤ n := by
  rw [compare_rat]
  cases h : compare a b with
  | lt => simp [Ordering.then, compare_lt_iff_lt.1 h]
  | eq => simp [Ordering.then, compare_eq_iff_eq.1 h, Nat.isLE_compare]
  | gt =>
      have hgt : b < a := compare_gt_iff_gt.1 h
      simp [Ordering.then, hgt.not_gt, hgt.ne']

namespace Tracker

section Steps

variable {K : Type u} [Coordinate K]

/-! ### The steps of a reader -/

/-- Take in what the page has to report. -/
def takeRecords (t : Tracker (ScrollLayout K) K) : Tracker (ScrollLayout K) K :=
  { t with host := t.host.takeRecords.2 }.handleBatch t.host.takeRecords.1

/-- Scroll, and take in what the page has to report then. -/
def scrollTo (t : Tracker (ScrollLayout K) K) (y : K) : Tracker (ScrollLayout K) K :=
  { t with host := (t.host.scrollTo y).2 }.handleBatch (t.host.scrollTo y).1

/-- A tracker that has taken in the first reports, and those of each scrolling. -/
def following (layout : ScrollLayout K) (toc : List TocEntry) (config : TrackerConfig K)
    (ys : List K) : Tracker (ScrollLayout K) K :=
  ys.foldl scrollTo (mount layout toc config).takeRecords

/-- A tracker on its page, scrolled but without the reports. -/
def scrolled (t : Tracker (ScrollLayout K) K) (y : K) : Tracker (ScrollLayout K) K :=
  { t with host := { t.host with scrollY := Coordinate.max y Coordinate.zero } }

theorem following_concat (layout : ScrollLayout K) (toc : List TocEntry)
    (config : TrackerConfig K) (ys : List K) (y : K) :
    following layout toc config (ys ++ [y]) =
      ((following layout toc config ys).scrolled y).takeRecords := by
  rw [following, List.foldl_append]
  rfl

/-- A tracker that observes some headings, all of them placed. -/
structure Observing (config : TrackerConfig K) (ids : List String)
    (t : Tracker (ScrollLayout K) K) : Prop where
  /-- Its settings. -/
  settings : t.config = config
  /-- The headings that it tracks. -/
  tracked : t.ids = ids
  /-- It has a subscription. -/
  subscribed : t.subscription.isSome = true
  /-- The headings are on the page. -/
  placed : ∀ id ∈ ids, t.host.regions.contains id = true

variable {config : TrackerConfig K} {ids : List String} {t : Tracker (ScrollLayout K) K}

/-- What a live tracker does with the reports. -/
theorem Observing.takeRecords_eq (h : Observing config ids t) :
    t.takeRecords =
      { t with
        host := t.host.takeRecords.2
        activeId := (select config ids t.host.takeRecords.1).or t.activeId } := by
  have hobserving : { t with host := t.host.takeRecords.2 }.isObserving = true := h.subscribed
  rw [takeRecords, handleBatch_eq, if_pos hobserving, h.settings, h.tracked]

theorem Observing.takeRecords (h : Observing config ids t) : Observing config ids t.takeRecords := by
  rw [h.takeRecords_eq]
  exact ⟨h.settings, h.tracked, h.subscribed, h.placed⟩

theorem Observing.scrolled (h : Observing config ids t) (y : K) :
    Observing config ids (t.scrolled y) :=
  ⟨h.settings, h.tracked, h.subscribed, h.placed⟩

/-- Only one subscription observes any of the headings, and it observes all of them. -/
def Alone (config : TrackerConfig K) (ids : List String) (host : ScrollLayout K) : Prop :=
  (∃ own ∈ host.observations, own.ids = ids ∧ own.band = config.band) ∧
    ∀ o ∈ host.observations, ∀ id ∈ ids, id ∈ o.ids → o.ids = ids ∧ o.band = config.band

/-- A tracker observes the headings of its outline from the beginning, and nothing has
been reported to it. -/
theorem observing_mount {layout : ScrollLayout K} {toc : List TocEntry} (config : TrackerConfig K)
    (hids : trackedIds toc = ids) (hsome : ids ≠ [])
    (hplaced : ∀ id ∈ ids, layout.regions.contains id = true) :
    Observing config ids (mount layout toc config) ∧
      (mount layout toc config).host =
        { layout with
          observations := layout.observations ++ [⟨layout.nextHandle, ids, config.band, ∅⟩]
          nextHandle := layout.nextHandle + 1 } := by
  have hmount : (mount layout toc config).config = config ∧
      (mount layout toc config).ids = ids ∧
      (mount layout toc config).subscription.isSome = true ∧
      (mount layout toc config).host = (layout.observe ids config.band).2 := by
    unfold mount
    cases ids with
    | nil => exact absurd rfl hsome
    | cons first rest =>
        rw [attach_of_cons _ hids]
        exact ⟨rfl, rfl, rfl, rfl⟩
  obtain ⟨hconfig, htracked, hsubscribed, hhost⟩ := hmount
  rw [ScrollLayout.observe, List.filter_eq_self.2 hplaced] at hhost
  exact ⟨⟨hconfig, htracked, hsubscribed, by rwa [hhost]⟩, hhost⟩

/-- If nobody else observes the headings of an outline, its tracker is alone with them. -/
theorem alone_mount {layout : ScrollLayout K} {toc : List TocEntry} (config : TrackerConfig K)
    (hids : trackedIds toc = ids) (hsome : ids ≠ [])
    (hplaced : ∀ id ∈ ids, layout.regions.contains id = true)
    (hothers : ∀ o ∈ layout.observations, ∀ id ∈ ids, id ∉ o.ids) :
    Alone config ids (mount layout toc config).host := by
  rw [Alone, (observing_mount config hids hsome hplaced).2]
  refine ⟨⟨_, List.mem_append_right _ List.mem_cons_self, rfl, rfl⟩, ?_⟩
  intro o ho id hid hobserved
  rcases List.mem_append.1 ho with ho | ho
  · exact absurd hobserved (hothers o ho id hid)
  · rw [List.mem_singleton.1 ho]
    exact ⟨rfl, rfl⟩

/-- A subscription that is the only one stays the only one. -/
theorem Alone.takeRecords {host : ScrollLayout K} (h : Alone config ids host) :
    Alone config ids host.takeRecords.2 := by
  obtain ⟨⟨own, hown, hids, hband⟩, hothers⟩ := h
  have hobservations : host.takeRecords.2.observations = _ := host.collect_observations _
  rw [Alone, hobservations]
  refine ⟨⟨_, List.mem_map_of_mem hown, hids, hband⟩, ?_⟩
  intro o ho
  obtain ⟨o', ho', rfl⟩ := List.mem_map.1 ho
  exact hothers o' ho'

/-- What a tracker has reached by scrolling is observed, and told. -/
theorem observing_following {layout : ScrollLayout K} {toc : List TocEntry}
    (config : TrackerConfig K) (hids : trackedIds toc = ids) (hsome : ids ≠ [])
    (hplaced : ∀ id ∈ ids, layout.regions.contains id = true) (ys : List K) :
    Observing config ids (following layout toc config ys) ∧
      (following layout toc config ys).host.Told := by
  induction ys using List.reverseRecOn with
  | nil =>
      have hmount := (observing_mount config hids hsome hplaced).1
      refine ⟨hmount.takeRecords, ?_⟩
      rw [following, List.foldl_nil, hmount.takeRecords_eq]
      exact ScrollLayout.told_takeRecords _
  | append_singleton ys y ih =>
      have hscrolled := ih.1.scrolled y
      rw [following_concat]
      refine ⟨hscrolled.takeRecords, ?_⟩
      rw [hscrolled.takeRecords_eq]
      exact ScrollLayout.told_takeRecords _

/-- If nobody else observes the headings at first, nobody does later. -/
theorem alone_following {layout : ScrollLayout K} {toc : List TocEntry} (config : TrackerConfig K)
    (hids : trackedIds toc = ids) (hsome : ids ≠ [])
    (hplaced : ∀ id ∈ ids, layout.regions.contains id = true)
    (hothers : ∀ o ∈ layout.observations, ∀ id ∈ ids, id ∉ o.ids) (ys : List K) :
    Alone config ids (following layout toc config ys).host := by
  induction ys using List.reverseRecOn with
  | nil =>
      rw [following, List.foldl_nil, (observing_mount config hids hsome hplaced).1.takeRecords_eq]
      exact (alone_mount config hids hsome hplaced hothers).takeRecords
  | append_singleton ys y ih =>
      have hscrolled := (observing_following config hids hsome hplaced ys).1.scrolled y
      rw [following_concat, hscrolled.takeRecords_eq]
      exact Alone.takeRecords ih

/-! ### What is due -/

/-- At first all headings are due. -/
theorem due_mount {layout : ScrollLayout K} {toc : List TocEntry}
    (config : TrackerConfig K) (hids : trackedIds toc = ids) (hsome : ids ≠ [])
    (hplaced : ∀ id ∈ ids, layout.regions.contains id = true) {id : String} (hid : id ∈ ids) :
    (mount layout toc config).host.Due id
      ((mount layout toc config).host.inBand config.band id) := by
  obtain ⟨hmount, hhost⟩ := observing_mount config hids hsome hplaced
  have hstate := (ScrollLayout.isSome_stateOf _ config.band id).trans (hmount.placed id hid)
  have hobservations := congrArg ScrollLayout.observations hhost
  rw [ScrollLayout.Due, hobservations]
  refine ⟨_, List.mem_append_right _ List.mem_cons_self, hid, fun hnone => ?_, rfl⟩
  rw [← hnone] at hstate
  exact Bool.noConfusion hstate

/-- If nobody else observes the headings, they are due by their place in one band. -/
theorem Alone.inBand_of_due {host : ScrollLayout K} (h : Alone config ids host) {id : String}
    (hid : id ∈ ids) {inView : Bool} (hdue : host.Due id inView) :
    host.inBand config.band id = inView := by
  obtain ⟨o, ho, hobserved, -, hband⟩ := hdue
  rwa [(h.2 o ho id hid hobserved).2] at hband

/-- After scrolling those headings are due whose state it has changed. -/
theorem due_scrolled (hobserving : Observing config ids t) (htold : t.host.Told)
    (halone : Alone config ids t.host) (y : K) {id : String} (hid : id ∈ ids) (inView : Bool) :
    (t.scrolled y).host.Due id inView ↔
      t.host.stateOf config.band id ≠ (t.scrolled y).host.stateOf config.band id ∧
        (t.scrolled y).host.inBand config.band id = inView := by
  have hplaced := hobserving.placed id hid
  constructor
  · rintro ⟨o, ho, hobserved, hnew, hband⟩
    rw [htold o ho id hobserved hplaced, (halone.2 o ho id hid hobserved).2] at hnew
    rw [(halone.2 o ho id hid hobserved).2] at hband
    exact ⟨hnew, hband⟩
  · rintro ⟨hnew, hband⟩
    obtain ⟨own, hown, hids, hownBand⟩ := halone.1
    have hobserved : id ∈ own.ids := hids ▸ hid
    refine ⟨own, hown, hobserved, ?_, hownBand ▸ hband⟩
    rw [htold own hown id hobserved hplaced, hownBand]
    exact hnew

end Steps

/-! ### What one batch can do -/

section Batch

variable {config : TrackerConfig Rat} {ids : List String} {t : Tracker (ScrollLayout Rat) Rat}

/-- The reports of tracked headings are those that are due. -/
theorem Observing.reported_iff (h : Observing config ids t) (entry : VisibilityEntry Rat) :
    Reported ids t.host.takeRecords.1 entry ↔
      entry.id ∈ ids ∧ entry.top = t.host.offset entry.id ∧
        t.host.Due entry.id entry.isIntersecting := by
  rw [Reported, ScrollLayout.mem_takeRecords]
  constructor
  · rintro ⟨⟨htop, hdue⟩, hid⟩
    exact ⟨hid, by rw [ScrollLayout.offset, htop]; rfl, hdue⟩
  · rintro ⟨hid, htop, hdue⟩
    obtain ⟨region, hregion⟩ := Option.isSome_iff_exists.1 (h.placed _ hid)
    refine ⟨⟨?_, hdue⟩, hid⟩
    rw [htop, ScrollLayout.offset, ScrollLayout.topOf, hregion]
    rfl

/-- The first report in view is that of the topmost heading. -/
theorem Observing.topmost_of_first (h : Observing config ids t) {entry : VisibilityEntry Rat}
    (hfirst : First ids t.host.takeRecords.1 (·.top) (·.isIntersecting) entry) :
    t.host.Topmost ids (t.host.Due · true) entry.id := by
  obtain ⟨hid, htop, hdue⟩ := (h.reported_iff entry).1 hfirst.reported
  refine ⟨hid, hfirst.qualifies ▸ hdue, ?_⟩
  intro other hother hdue
  have hle := hfirst.least ⟨other, true, t.host.offset other⟩
    ((h.reported_iff _).2 ⟨hother, rfl, hdue⟩) rfl
  rw [order, isLE_compare_then, htop] at hle
  exact hle

/-- **One batch.** Either a heading is reported in view, and the topmost of these becomes
active; or none is, but one out of view that is at or above the activation offset, and
such a one becomes active; or neither, and the active heading stays. -/
theorem activeId_takeRecords (h : Observing config ids t) :
    (∃ id, t.host.Topmost ids (t.host.Due · true) id ∧ t.takeRecords.activeId = some id) ∨
      (∀ id ∈ ids, ¬ t.host.Due id true) ∧
        ((∃ id ∈ ids, t.host.Due id false ∧ t.host.offset id ≤ config.activationOffset ∧
            t.takeRecords.activeId = some id) ∨
          (∀ id ∈ ids, t.host.Due id false → config.activationOffset < t.host.offset id) ∧
            t.takeRecords.activeId = t.activeId) := by
  have hreported : ∀ id ∈ ids, ∀ inView, t.host.Due id inView →
      Reported ids t.host.takeRecords.1 ⟨id, inView, t.host.offset id⟩ :=
    fun id hid inView hdue => (h.reported_iff _).2 ⟨hid, rfl, hdue⟩
  have hview : (∀ other, Reported ids t.host.takeRecords.1 other → other.isIntersecting = false) →
      ∀ id ∈ ids, ¬ t.host.Due id true :=
    fun hnone id hid hdue => Bool.noConfusion (hnone _ (hreported id hid true hdue))
  have hselects := select_selects config ids t.host.takeRecords.1
  rw [h.takeRecords_eq]
  generalize select config ids t.host.takeRecords.1 = selected at hselects
  cases hselects with
  | inView entry first => exact .inl ⟨entry.id, h.topmost_of_first first, rfl⟩
  | near entry outOfView first =>
      obtain ⟨hid, htop, hdue⟩ := (h.reported_iff entry).1 first.reported
      have hnear : entry.top ≤ config.activationOffset := of_decide_eq_true first.qualifies
      rw [outOfView entry first.reported] at hdue
      exact .inr ⟨hview outOfView, .inl ⟨entry.id, hid, hdue, htop ▸ hnear, rfl⟩⟩
  | nothing outOfView below =>
      refine .inr ⟨hview outOfView, .inr ⟨fun id hid hdue => ?_, rfl⟩⟩
      exact not_le.1 (of_decide_eq_false (below _ (hreported id hid false hdue)))

/-- The topmost of the headings that are reported in view becomes active. -/
theorem Observing.activeId_of_topmost (h : Observing config ids t) {id : String}
    (htopmost : t.host.Topmost ids (t.host.Due · true) id) : t.takeRecords.activeId = some id := by
  rcases activeId_takeRecords h with ⟨other, hother, hactive⟩ | ⟨hnone, -⟩
  · rw [hactive, htopmost.unique hother]
  · exact absurd htopmost.qualifies (hnone id htopmost.mem)

/-- **One scroll.** The topmost heading in the band is active after it exactly if its own
state has changed, or it was active and nothing that could take its place has changed. -/
theorem Observing.activeId_scrolled_iff (h : Observing config ids t) (htold : t.host.Told)
    (halone : Alone config ids t.host) (y : Rat) {id : String}
    (htopmost : (t.scrolled y).host.Topmost ids
      ((t.scrolled y).host.inBand config.band · = true) id) :
    (t.scrolled y).takeRecords.activeId = some id ↔
      t.host.stateOf config.band id ≠ (t.scrolled y).host.stateOf config.band id ∨
        t.activeId = some id ∧ ∀ other ∈ ids,
          t.host.stateOf config.band other ≠ (t.scrolled y).host.stateOf config.band other →
            (t.scrolled y).host.inBand config.band other = false ∧
              config.activationOffset < (t.scrolled y).host.offset other := by
  have hdue := fun {other : String} (hmem : other ∈ ids) => due_scrolled h htold halone y hmem
  have hscrolled := h.scrolled y
  by_cases hchanged : t.host.stateOf config.band id ≠ (t.scrolled y).host.stateOf config.band id
  · -- Then it is the topmost of what is reported in view as well.
    have hactive := hscrolled.activeId_of_topmost <|
      htopmost.mono ((hdue htopmost.mem true).2 ⟨hchanged, htopmost.qualifies⟩)
        fun other hother hin => ((hdue hother true).1 hin).2
    exact ⟨fun _ => .inl hchanged, fun _ => hactive⟩
  · -- Else it is not reported: any other one that becomes active takes its place.
    rw [or_iff_right hchanged]
    have hother : ∀ other ∈ ids, ∀ inView, (t.scrolled y).host.Due other inView → id ≠ other := by
      rintro other hmem inView hin rfl
      exact hchanged ((hdue hmem inView).1 hin).1
    rcases activeId_takeRecords hscrolled with
      ⟨other, hfirst, hactive⟩ | ⟨hview, ⟨other, hmem, hin, hnear, hactive⟩ | ⟨hbelow, hactive⟩⟩
    · rw [hactive]
      constructor
      · exact fun heq => absurd (Option.some.inj heq).symm (hother _ hfirst.mem true hfirst.qualifies)
      · rintro ⟨-, hnothing⟩
        obtain ⟨hnew, hin⟩ := (hdue hfirst.mem true).1 hfirst.qualifies
        exact absurd hin (by rw [(hnothing other hfirst.mem hnew).1]; exact Bool.false_ne_true)
    · rw [hactive]
      constructor
      · exact fun heq => absurd (Option.some.inj heq).symm (hother _ hmem false hin)
      · rintro ⟨-, hnothing⟩
        exact absurd (hnothing other hmem ((hdue hmem false).1 hin).1).2 (not_lt.2 hnear)
    · rw [hactive]
      refine (and_iff_left fun other hmem hnew => ?_).symm
      have hout : (t.scrolled y).host.inBand config.band other = false := by
        by_contra hin
        exact hview other hmem ((hdue hmem true).2 ⟨hnew, Bool.eq_true_of_not_eq_false hin⟩)
      exact ⟨hout, hbelow other hmem ((hdue hmem false).2 ⟨hnew, hout⟩)⟩

end Batch

/-! ### The whole run -/

/-- **The active heading follows the reports.** After each batch the topmost heading that
is reported in view is active. Where no other subscription observes the headings, this is
after the first batch the topmost one in the band. After scrolling it is the topmost
among those whose state the scrolling has changed; so the topmost one in the band is
active exactly if its own state has changed, or it was active before and no heading
that is now in the band or at or above the activation offset has changed its state. -/
theorem activeId_following (layout : ScrollLayout Rat) (toc : List TocEntry)
    (config : TrackerConfig Rat)
    (hplaced : ∀ id ∈ trackedIds toc, layout.regions.contains id = true) :
    (∀ id, (mount layout toc config).host.Topmost (trackedIds toc)
        ((mount layout toc config).host.Due · true) id →
      (following layout toc config []).activeId = some id) ∧
    (∀ ys y id, ((following layout toc config ys).scrolled y).host.Topmost (trackedIds toc)
        (((following layout toc config ys).scrolled y).host.Due · true) id →
      (following layout toc config (ys ++ [y])).activeId = some id) ∧
    ((∀ o ∈ layout.observations, ∀ id ∈ trackedIds toc, id ∉ o.ids) →
      (∀ id, layout.Topmost (trackedIds toc) (layout.inBand config.band · = true) id →
        (following layout toc config []).activeId = some id) ∧
      ∀ ys y,
        let before := following layout toc config ys
        let page := (before.scrolled y).host
        let changed id := before.host.stateOf config.band id ≠ page.stateOf config.band id
        let after := following layout toc config (ys ++ [y])
        (∀ id, page.Topmost (trackedIds toc)
            (fun other => page.inBand config.band other = true ∧ changed other) id →
          after.activeId = some id) ∧
        ∀ id, page.Topmost (trackedIds toc) (page.inBand config.band · = true) id →
          (after.activeId = some id ↔
            changed id ∨
              before.activeId = some id ∧ ∀ other ∈ trackedIds toc, changed other →
                page.inBand config.band other = false ∧
                  config.activationOffset < page.offset other)) := by
  by_cases hsome : trackedIds toc = []
  · -- Without headings there is no topmost one.
    rw [hsome]
    have hempty : ∀ {page : ScrollLayout Rat} {among : String → Prop} {id : String} {P : Prop},
        page.Topmost [] among id → P := fun h => absurd h.mem List.not_mem_nil
    exact ⟨fun _ => hempty, fun _ _ _ => hempty,
      fun _ => ⟨fun _ => hempty, fun _ _ => ⟨fun _ => hempty, fun _ => hempty⟩⟩⟩
  obtain ⟨hmount, hhost⟩ := observing_mount config rfl hsome hplaced
  have hfollowing := observing_following config rfl hsome hplaced
  refine ⟨fun id => hmount.activeId_of_topmost, fun ys y id htopmost => ?_, fun hothers => ?_⟩
  · rw [following_concat]
    exact ((hfollowing ys).1.scrolled y).activeId_of_topmost htopmost
  · have halone := alone_following config rfl hsome hplaced hothers
    refine ⟨fun id htopmost => hmount.activeId_of_topmost ?_, fun ys y => ⟨fun id htopmost => ?_,
      fun id htopmost => ?_⟩⟩
    · have htopmost : (mount layout toc config).host.Topmost (trackedIds toc)
          ((mount layout toc config).host.inBand config.band · = true) id := by
        rw [hhost]
        exact ⟨htopmost.mem, htopmost.qualifies, htopmost.nearest⟩
      have hdue := due_mount config rfl hsome hplaced htopmost.mem
      rw [htopmost.qualifies] at hdue
      exact htopmost.mono hdue fun other hother hin =>
        (alone_mount config rfl hsome hplaced hothers).inBand_of_due hother hin
    · rw [following_concat]
      refine ((hfollowing ys).1.scrolled y).activeId_of_topmost (htopmost.mono ?_ ?_)
      · exact (due_scrolled (hfollowing ys).1 (hfollowing ys).2 (halone ys) y htopmost.mem true).2
          htopmost.qualifies.symm
      · exact fun other hother hin => ((due_scrolled (hfollowing ys).1 (hfollowing ys).2 (halone ys)
          y hother true).1 hin).symm
    · rw [following_concat]
      exact (hfollowing ys).1.activeId_scrolled_iff (hfollowing ys).2 (halone ys) y htopmost

/-- A page with two headings: the first is in the band at once, the second below it. -/
def twoHeadings : ScrollLayout Rat := ((ScrollLayout.empty 1000).place "a" 140 40).place "b" 420 40

/-- The outline of the page with two headings. -/
def twoEntries : List TocEntry := [⟨"A", 1, "a", []⟩, ⟨"B", 1, "b", []⟩]

/-- Scrolled to its second heading, the page has that one active. -/
theorem activeId_following_second :
    (∀ id ∈ trackedIds twoEntries, twoHeadings.regions.contains id = true) ∧
      (following twoHeadings twoEntries .default [300]).activeId = some "b" := by
  have hplaced : ∀ id ∈ trackedIds twoEntries, twoHeadings.regions.contains id = true := by
    decide +kernel
  have halone : ∀ o ∈ twoHeadings.observations, ∀ id ∈ trackedIds twoEntries, id ∉ o.ids := by
    decide +kernel
  refine ⟨hplaced, ((((activeId_following _ _ .default hplaced).2.2 halone).2 [] 300).2 "b" ?_).2 (.inl ?_)⟩
  · exact ⟨by decide +kernel, by decide +kernel, by decide +kernel⟩
  · decide +kernel

/-- Scrolled a little, the page has both headings in the band and reports only the second
one, which overtakes the first although that stands above it. -/
theorem activeId_following_overtaken :
    (flattenIds twoEntries).Nodup ∧
      (∀ id ∈ flattenIds twoEntries, twoHeadings.regions.contains id = true) ∧
      (following twoHeadings twoEntries .default [30]).host.Topmost (trackedIds twoEntries)
        ((following twoHeadings twoEntries .default [30]).host.inBand
          (TrackerConfig.default : TrackerConfig Rat).band · = true) "a" ∧
      (following twoHeadings twoEntries .default [30]).activeId = some "b" := by
  refine ⟨by decide +kernel, by decide +kernel, ⟨?_, ?_, ?_⟩, ?_⟩
  all_goals decide +kernel

end Tracker

end PostPress
