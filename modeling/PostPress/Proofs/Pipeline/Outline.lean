import PostPress.Proofs.Collections.Except
import PostPress.Proofs.Pipeline.Heading
import PostPress.Proofs.Sanitize.Heading
import PostPress.Proofs.Sanitize.Schema

/-!
# PostPress.Proofs.Pipeline.Outline

**The outline and the sanitized tree.** The outline is taken before the sanitizer
runs, so it tells the ids of the tree that comes out exactly if the sanitizer
drops no heading and takes no id away (`outline_matches_iff`). Either may happen:
a component that is named like a tag that goes with its content takes its headings
with it, and the outline keeps their entries.
-/

namespace PostPress

open Html Sanitize

namespace Pipeline

/-- The tree that a configuration gives to the sanitizer. -/
def prepared (config : Config) (tree : Node) : Node := ((ofConfig config).prepare tree).2

/-- Headings with ids are in the allow-list, whatever the configuration. -/
theorem allowsHeadings_schema (config : Config) : (schema config).AllowsHeadings where
  tags tag htag := by
    have hdefault : ∀ tag ∈ ["h1", "h2", "h3", "h4", "h5", "h6"], tag ∈ Schema.defaultTags := by
      decide
    exact allowsTag_schema (hdefault tag (mem_of_headingLevel htag)) config
  ids := lists_schema (by decide +kernel) config

/-- A run ends with what the sanitizer makes of the prepared tree. -/
theorem sanitized_of_process {config : Config} {sanitizer : Sanitizer} {tree : Node}
    {rendered : Rendered} (h : (withSanitizer config sanitizer).process tree = .ok rendered) :
    ∃ result, sanitizer (prepared config tree) = .ok result ∧
      (⟨result, ((ofConfig config).prepare tree).1⟩ : Rendered) = rendered :=
  exists_of_map_eq_ok h

/-- **The outline matches the tree exactly if** no heading of what is sanitized lies
below a node that goes with its content, and every heading is left with its id. -/
theorem outline_matches_iff (config : Config) (reader : HtmlReader) {tree : Node}
    {rendered : Rendered} (htree : tree.HeadingsApart)
    (hprocess : (withSanitizer config ((schema config).sanitizeWith reader)).process tree =
      .ok rendered)
    (hwritten : reader.ReadsNodes ((schema config).unwrapForeign (prepared config tree).topNodes))
    (hcleaned : ∀ rules, (schema config).cleanRules = .ok rules →
      reader.ReadsMarkup (rules.clean (reader.fragment (writeNodes false
        ((schema config).unwrapForeign (prepared config tree).topNodes))))) :
    rendered.tree.headings.map (·.attr? "id") = (flattenIds rendered.toc).map some ↔
      (prepared config tree).headingsOutside (schema config).drops =
          (prepared config tree).headings ∧
        ∀ heading ∈ (prepared config tree).headings,
          (schema config).keptId? heading = heading.attr? "id" := by
  obtain ⟨result, hresult, rfl⟩ := sanitized_of_process hprocess
  have htoc := (ofConfig config).attr?_id_headings_prepare htree
  have hids := Schema.attr?_id_sanitizeWith (allowsHeadings_schema config) hresult hwritten hcleaned
  show result.headings.map _ = (flattenIds ((ofConfig config).prepare tree).1).map some ↔ _
  rw [hids, ← htoc]
  constructor
  · intro h
    -- The headings that are left are some of all headings, and as many.
    have hlength := congrArg List.length h
    rw [List.length_map, List.length_map] at hlength
    have hall := (Node.headingsOutside_sublist (schema config).drops _).eq_of_length hlength
    refine ⟨hall, fun heading hheading => ?_⟩
    rw [hall] at h
    exact List.map_inj_left.1 h heading hheading
  · rintro ⟨hall, hkept⟩
    rw [hall]
    exact List.map_congr_left hkept

/-- Headings in a component and in an element that is not allowed are not dropped. -/
theorem outline_matches_iff_component :
    let heading : Node := .plain "h2" [.text "A b"]
    let tree : Node := .root [.foreign "Callout" [heading], .plain "article" [heading]]
    tree.HeadingsApart ∧ ∃ rendered, (ofConfig .default).process tree = .ok rendered ∧
      rendered.tree.headings.map (·.attr? "id") = (flattenIds rendered.toc).map some ∧
      flattenIds rendered.toc = ["a-b", "a-b-1"] := by
  intro heading tree
  have htree : tree.HeadingsApart := by decide +kernel
  have hids : ((ofConfig .default).process tree).map (fun rendered => flattenIds rendered.toc) =
      .ok ["a-b", "a-b-1"] := by decide +kernel
  obtain ⟨rendered, hprocess, htoc⟩ := exists_of_map_eq_ok hids
  have hmatches := outline_matches_iff .default .standard htree hprocess (by decide +kernel)
    fun rules hrules => by
      obtain rfl := Schema.eq_of_cleanRules hrules
      decide +kernel
  exact ⟨htree, rendered, hprocess, hmatches.2 ⟨by decide +kernel, by decide +kernel⟩, htoc⟩

/-- The headings of a component with the name of a tag that goes with its content
are gone from the tree, and still in the outline. -/
theorem outline_of_dropped_heading :
    let tree : Node := .root [.foreign "script" [.plain "h2" [.text "A"]]]
    tree.HeadingsApart ∧ ∃ rendered, (ofConfig .default).process tree = .ok rendered ∧
      rendered.tree.headings = [] ∧ flattenIds rendered.toc = ["a"] := by
  intro tree
  have hrun : ((ofConfig .default).process tree).map
      (fun rendered => (rendered.tree.headings, flattenIds rendered.toc)) = .ok ([], ["a"]) := by
    decide +kernel
  obtain ⟨rendered, hprocess, hrendered⟩ := exists_of_map_eq_ok hrun
  exact ⟨by decide +kernel, rendered, hprocess, Prod.mk.inj hrendered⟩

end Pipeline

end PostPress
