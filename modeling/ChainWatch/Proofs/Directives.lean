/-
What a text of log settings makes of the filter.

A text lists the components in some order and may name one again. `Draft` keeps that list, and
`Gives` says which texts are those of a draft; these are the texts that log settings are read from
(`ofJson?_eq_some`). What the filter text has to say of a list is `Directs`: each name once, in the
order of the bytes, with the level that was given last. There is one such text
(`Directs.unique`), as ascending entries are determined by which entries they are, so neither the
order of the list shows, nor what was overwritten, nor the order in which the map is walked.
-/
import ChainWatch.Proofs.SettingsText

set_option autoImplicit false

namespace ChainWatch.LogSettings

/-! ## 1. Drafts -/

/-- Log settings as a text gives them, with the components in the order of the text. -/
structure Draft where
  level : String
  components : List TextEntry
  json : Bool

namespace Draft

/-- The settings that a draft stands for: of several levels for one name the last one counts. -/
def settings (d : Draft) : LogSettings := ⟨d.level, .ofList d.components, d.json⟩

def shape : List (Json.Field Draft) :=
  [⟨"level", String, level, fun j s => j = .text s, some "info"⟩,
    ⟨"components", List TextEntry, components, fun j entries => j = entriesJson entries, some []⟩,
    ⟨"json", Bool, json, fun j b => j = .bool b, some false⟩]

/-- The text is that of this draft, with members and blanks wherever they may stand. -/
def Gives (t : String) (d : Draft) : Prop :=
  ∃ j, Json.parse? t = some j ∧ Json.IsRecord shape j d

/-- The reader of drafts, which leaves the components as they are listed. -/
def ofFields? : List (Option Json) → Option Draft
  | [level, components, json] => do
      return ⟨← Json.withDefault "info" Json.text? level,
        ← Json.withDefault [] entries? components,
        ← Json.withDefault false Json.bool? json⟩
  | _ => none

theorem follows : Json.Follows shape ofFields? where
  nodup := by decide
  fields :=
    Json.readsFields_cons
      (Json.readBy_withDefault (fun _ _ => Json.text?_eq_some) "level" level "info") fun level =>
    Json.readsFields_cons
      (Json.readBy_withDefault (fun _ _ => entries?_eq_some) "components" components [])
      fun components =>
    Json.readsFields_cons
      (Json.readBy_withDefault Json.bool?_eq_some "json" json false) fun json =>
    Json.readsFields_nil fun m => by
      cases m
      simp [and_assoc]

/-- Every draft has a text. -/
theorem gives_render (d : Draft) : d.Gives (d.settings.toJsonWith d.components).render := by
  refine ⟨_, Json.parse?_render (unadorned_toJsonWith d.components d.settings), ?_⟩
  have hentries : entries? (entriesJson d.components) = some d.components :=
    entries?_eq_some.mpr rfl
  have hread : ((d.settings.toJsonWith d.components).fields? names).bind ofFields? = some d := by
    rw [fields?_toJsonWith, Option.bind_some]
    simp only [ofFields?, Json.withDefault_some, Json.text?_text, hentries, Json.bool?_bool]
    rfl
  exact (follows.readsRecord.exact _ d).mp hread

end Draft

/-- The settings are read as the draft is, and their map is made of its list. -/
theorem ofFields?_eq (cells : List (Option Json)) :
    ofFields? cells = (Draft.ofFields? cells).map Draft.settings := by
  have hcomponents (cell : Option Json) : Json.withDefault .empty components? cell
      = (Json.withDefault [] entries? cell).map TextMap.ofList := by
    cases cell <;> rfl
  unfold ofFields?
  split
  · rename_i level components json
    simp only [Draft.ofFields?, hcomponents]
    cases Json.withDefault "info" Json.text? level with
    | none => rfl
    | some level =>
        cases Json.withDefault [] entries? components with
        | none => rfl
        | some components => cases Json.withDefault false Json.bool? json <;> rfl
  · rename_i hother
    rw [Draft.ofFields?]
    · rfl
    · exact hother

/-- Log settings are read from the values that give a draft of them. -/
theorem ofJson?_eq_some {j : Json} {s : LogSettings} :
    ofJson? j = some s ↔ ∃ d : Draft, Json.IsRecord Draft.shape j d ∧ d.settings = s := by
  have hread : ofJson? j = ((j.fields? names).bind Draft.ofFields?).map Draft.settings := by
    rw [ofJson?, Option.map_bind]
    exact congrArg _ (funext ofFields?_eq)
  rw [hread, Option.map_eq_some_iff]
  exact exists_congr fun d => and_congr_left fun _ => Draft.follows.readsRecord.exact j d

/-! ## 2. The filter text -/

/-- One component in a filter text: its name with each `-` replaced by `_`, and its level. -/
def part (entry : TextEntry) : List Char :=
  ',' :: (entry.1.toList.map fun c => if c = '-' then '_' else c) ++ '=' :: entry.2.toList

/-- What a filter text has to say: the level, and behind it each component that was given, once and
in the order of the bytes of the names, with the level it was given last. -/
def Directs (level : String) (given : List TextEntry) (text : String) : Prop :=
  ∃ entries : List TextEntry, entries.Pairwise TextEntry.Before
    ∧ (∀ entry, entry ∈ entries ↔ TextMap.lastWrite? given entry.1 = some entry.2)
    ∧ text.toList = level.toList ++ entries.flatMap part

theorem toList_directive (entry : TextEntry) : (directive entry).toList = part entry := by
  simp [directive, targetName, part]

theorem toList_directives (s : LogSettings) :
    s.directives.toList = s.level.toList ++ s.components.entries.flatMap part := by
  rw [directives, directivesWith, TextMap.mergeSort_of_perm (List.Perm.refl _),
    String.toList_append, String.toList_join, List.flatMap_map]
  simp only [toList_directive]

theorem Draft.directs (d : Draft) : Directs d.level d.components d.settings.directives := by
  refine ⟨d.settings.components.entries, d.settings.components.ascending, ?_, ?_⟩
  · intro entry
    have hmem : entry ∈ d.settings.components.entries
        ↔ d.settings.components.get? entry.1 = some entry.2 := TextMap.mem_toList
    have hget : d.settings.components.get? entry.1 = TextMap.lastWrite? d.components entry.1 :=
      TextMap.get?_ofList d.components entry.1
    rw [hmem, hget]
  · exact d.settings.toList_directives

/-- The level and what was given last to each name leave nothing open. -/
theorem Directs.unique {level text text' : String} {given given' : List TextEntry}
    (h : Directs level given text) (h' : Directs level given' text')
    (hlast : ∀ name, TextMap.lastWrite? given name = TextMap.lastWrite? given' name) :
    text = text' := by
  obtain ⟨entries, hascending, hmem, htext⟩ := h
  obtain ⟨entries', hascending', hmem', htext'⟩ := h'
  have hentries : entries = entries' := by
    apply TextMap.eq_of_mem_iff hascending hascending'
    intro entry
    rw [hmem, hmem', hlast]
  have hchars : text.toList = text'.toList := by rw [htext, htext', hentries]
  exact String.toList_inj.mp hchars

/-- Every draft has a text, and log settings are read from the texts of their drafts and no others.
Their filter text says of each name what was given last, and the order in which the map is walked
does not show. So two drafts with one level, and the same given last to each name, ask for the same
filter. -/
theorem directives_by_last_write :
    (∀ d : Draft, d.Gives (d.settings.toJsonWith d.components).render)
    ∧ (∀ (t : String) (s : LogSettings), (Json.parse? t).bind ofJson? = some s
      ↔ ∃ d : Draft, d.Gives t ∧ d.settings = s)
    ∧ (∀ d : Draft, Directs d.level d.components d.settings.directives)
    ∧ (∀ (s : LogSettings) (walked : List TextEntry), walked.Perm s.components.entries →
      s.directivesWith walked = s.directives)
    ∧ ∀ d d' : Draft, d.level = d'.level →
      (∀ name, TextMap.lastWrite? d.components name = TextMap.lastWrite? d'.components name) →
      d.settings.directives = d'.settings.directives := by
  refine ⟨Draft.gives_render, ?_, Draft.directs, fun _ _ => directivesWith_of_perm, ?_⟩
  · intro t s
    rw [Option.bind_eq_some_iff]
    constructor
    · rintro ⟨j, hj, hread⟩
      obtain ⟨d, hd, hs⟩ := ofJson?_eq_some.mp hread
      exact ⟨d, ⟨j, hj, hd⟩, hs⟩
    · rintro ⟨d, ⟨j, hj, hd⟩, hs⟩
      exact ⟨j, hj, ofJson?_eq_some.mpr ⟨d, hd, hs⟩⟩
  · intro d d' hlevel hlast
    have hdirects' := d'.directs
    rw [← hlevel] at hdirects'
    exact d.directs.unique hdirects' hlast

/-- Names that targets spell alike stand in the order of their own bytes, and what was overwritten
is gone. -/
theorem directives_by_last_write_repeated :
    let d : Draft := ⟨"warn", [("b-b", "x"), ("a_b", "1"), ("a-b", "2"), ("b-b", "y")], false⟩
    let d' : Draft := ⟨"warn", [("a-b", "2"), ("b-b", "y"), ("a_b", "1")], true⟩
    d'.components.Perm d'.settings.components.entries
    ∧ (∀ name, TextMap.lastWrite? d.components name = TextMap.lastWrite? d'.components name)
    ∧ d.settings.directives = d'.settings.directives
    ∧ d'.settings.directivesWith d'.components = d'.settings.directives
    ∧ d'.settings.directives = "warn,a_b=2,a_b=1,b_b=y" := by
  intro d d'
  have hwalked : d'.components.Perm d'.settings.components.entries := by decide
  have hmap : TextMap.ofList d.components = TextMap.ofList d'.components := by decide
  have hlast (name : String) :
      TextMap.lastWrite? d.components name = TextMap.lastWrite? d'.components name := by
    rw [← TextMap.get?_ofList, hmap, TextMap.get?_ofList]
  obtain ⟨-, -, -, hwalk, hsame⟩ := directives_by_last_write
  have htext : d'.settings.directives = "warn,a_b=2,a_b=1,b_b=y" := by
    rw [← String.toList_inj, toList_directives]
    decide
  exact ⟨hwalked, hlast, hsame d d' rfl hlast, hwalk d'.settings d'.components hwalked, htext⟩

end ChainWatch.LogSettings
