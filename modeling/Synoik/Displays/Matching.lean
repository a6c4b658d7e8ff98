import Mathlib.Data.Finset.Lattice.Basic
import Synoik.Displays.MonitorsXml

/-!
# Configurations and the monitors they are for

A configuration is looked up by the monitors that could be read of it. These are all of its
monitors when it could be read in whole, and only then is the configuration applied to the
set that it was saved for.
-/

namespace Synoik.MonitorsXml

open List SpecKey

variable {Real : Type} {formats : Formats Real} {root element logical monitor : Node}
  {configuration : SavedConfiguration Real} {key : SpecKey}

lemma SavedConfiguration.mem_key :
    key ∈ configuration.key formats ↔ ∃ logical ∈ configuration.logicalMonitors,
      ∃ monitor ∈ logical.monitors, monitor.key formats = key := by
  simp only [SavedConfiguration.key, mem_toFinset, mem_map, mem_flatMap]
  constructor
  · rintro ⟨monitor, ⟨logical, has, mem⟩, same⟩
    exact ⟨logical, has, monitor, mem, same⟩
  · rintro ⟨logical, has, monitor, mem, same⟩
    exact ⟨monitor, ⟨logical, has, mem⟩, same⟩

lemma SpecKey.mem_setOf : key ∈ setOf formats element ↔ ∃ logical ∈ logicalsOf element,
      ∃ monitor ∈ monitorsOf logical, ∃ spec, specOf monitor = some spec ∧
        ofSpec formats spec = key := by
  simp only [setOf, mem_toFinset, mem_map, mem_filterMap, filter_flatMap, mem_flatMap]
  constructor
  · rintro ⟨spec, ⟨monitor, ⟨logical, has, mem⟩, got⟩, same⟩
    exact ⟨logical, has, monitor, mem, spec, got, same⟩
  · rintro ⟨logical, has, monitor, mem, spec, got, same⟩
    exact ⟨spec, ⟨monitor, ⟨logical, has, mem⟩, got⟩, same⟩

lemma readMonitor_key {saved : SavedMonitor Real}
    (read : readMonitor formats monitor = some saved) :
    ∃ spec, specOf monitor = some spec ∧ ofSpec formats spec = saved.key formats := by
  obtain ⟨spec, got, rest⟩ := Option.bind_eq_some_iff.mp read
  obtain ⟨_, named, rfl⟩ := Option.map_eq_some_iff.mp rest
  refine ⟨spec, got, ?_⟩
  rw [ofSpec, named]
  rfl

lemma readLogical_monitors {saved : SavedLogicalMonitor Real}
    (read : readLogical formats logical = some saved) :
    saved.monitors = (monitorsOf logical).filterMap (readMonitor formats) := by
  obtain ⟨_, _, rest⟩ := Option.bind_eq_some_iff.mp read
  split at rest
  · dsimp only at rest
    split at rest
    · cases rest
    · cases rest
      rfl
  · cases rest

section

variable (read : readConfiguration formats element = some configuration)
include read

lemma readConfiguration_logicals :
    configuration.logicalMonitors = (logicalsOf element).filterMap (readLogical formats) := by
  dsimp only [readConfiguration] at read
  split at read
  · cases read
  · cases read
    rfl

lemma key_subset_setOf : configuration.key formats ⊆ setOf formats element := by
  intro _ mem
  obtain ⟨_, has, _, monitorThere, rfl⟩ := SavedConfiguration.mem_key.mp mem
  rw [readConfiguration_logicals read] at has
  obtain ⟨logical, logicalThere, logicalRead⟩ := mem_filterMap.mp has
  rw [readLogical_monitors logicalRead] at monitorThere
  obtain ⟨monitor, inside, monitorRead⟩ := mem_filterMap.mp monitorThere
  obtain ⟨spec, got, same⟩ := readMonitor_key monitorRead
  exact SpecKey.mem_setOf.mpr ⟨logical, logicalThere, monitor, inside, spec, got, same⟩

end

/-- Every logical monitor and every monitor of it can be read. -/
abbrev FullyRead (formats : Formats Real) (element : Node) : Prop :=
  ∀ logical ∈ logicalsOf element, (readLogical formats logical).isSome = true ∧
    ∀ monitor ∈ monitorsOf logical, (readMonitor formats monitor).isSome = true

lemma FullyRead.setOf_subset (fully : FullyRead formats element)
    (read : readConfiguration formats element = some configuration) :
    setOf formats element ⊆ configuration.key formats := by
  intro _ mem
  obtain ⟨logical, has, monitor, inside, _, got, rfl⟩ := SpecKey.mem_setOf.mp mem
  obtain ⟨saved, logicalRead⟩ := Option.isSome_iff_exists.mp (fully logical has).1
  obtain ⟨savedMonitor, monitorRead⟩ :=
    Option.isSome_iff_exists.mp ((fully logical has).2 monitor inside)
  obtain ⟨_, otherFound, same⟩ := readMonitor_key monitorRead
  cases got.symm.trans otherFound
  refine SavedConfiguration.mem_key.mpr ⟨saved, ?_, savedMonitor, ?_, same.symm⟩
  · rw [readConfiguration_logicals read]
    exact mem_filterMap.mpr ⟨logical, has, logicalRead⟩
  · rw [readLogical_monitors logicalRead]
    exact mem_filterMap.mpr ⟨monitor, inside, monitorRead⟩

lemma FullyRead.key_eq (fully : FullyRead formats element)
    (read : readConfiguration formats element = some configuration) :
    configuration.key formats = setOf formats element :=
  Finset.Subset.antisymm (key_subset_setOf read) (fully.setOf_subset read)

/-- The monitors that an element names, wherever in it. -/
def specs (formats : Formats Real) (element : Node) : Finset SpecKey :=
  ((element.within.filter (hasTag "monitorspec")).map (SpecKey.ofSpec formats)).toFinset

lemma setOf_subset_specs : setOf formats element ⊆ specs formats element := by
  intro _ mem
  obtain ⟨_, has, _, inside, spec, got, rfl⟩ := SpecKey.mem_setOf.mp mem
  have tagged := find?_some got
  have inside : spec ∈ element.within := Node.mem_within_of_child (mem_of_mem_filter has)
      (Node.mem_within_of_child (mem_of_mem_filter inside)
        (Node.mem_within_of_child (mem_of_find?_eq_some got) spec.mem_within_self))
  exact mem_toFinset.mpr (mem_map_of_mem (mem_filter.mpr ⟨inside, tagged⟩))

/-- Nothing of an element goes unread: none of its monitors, and no monitor that it names
elsewhere, as among those that are disabled. -/
abbrev Whole (formats : Formats Real) (element : Node) : Prop :=
  FullyRead formats element ∧ specs formats element ⊆ SpecKey.setOf formats element

lemma whole_iff (read : readConfiguration formats element = some configuration) :
    specs formats element = configuration.key formats ∧ FullyRead formats element ↔
      Whole formats element := by
  constructor
  · rintro ⟨same, fully⟩
    exact ⟨fully, by rw [same, fully.key_eq read]⟩
  · rintro ⟨fully, named⟩
    rw [fully.key_eq read]
    exact ⟨Finset.Subset.antisymm named setOf_subset_specs, fully⟩

/-- What can be read of an element is for a set of monitors. -/
def ReadFor (formats : Formats Real) (key : Finset SpecKey) (element : Node) : Bool :=
  (readConfiguration formats element).any fun configuration => configuration.key formats = key

/-- The element that is looked up for some connected monitors. -/
def origin (formats : Formats Real) (root : Node) (connected : List OutputName) : Option Node :=
  let key := (connected.map (SpecKey.of formats)).toFinset
  if key = ∅ then none
  else (configurationsOf root).reverse.find? (ReadFor formats key)

lemma configurationFor_ofRoot (version : isVersion2 root = true) (linked : List OutputName) :
    (MonitorsConfig.ofRoot formats root).configurationFor formats linked =
      (origin formats root linked).bind (readConfiguration formats) := by
  unfold MonitorsConfig.configurationFor MonitorsConfig.ofRoot lookup origin
  dsimp only
  split
  · rfl
  · rw [← filterMap_reverse, find?_filterMap]
    rfl

lemma origin_eq_some {linked : List OutputName} : origin formats root linked = some element ↔
      (linked.map (SpecKey.of formats)).toFinset ≠ ∅ ∧
      ∃ pre post, configurationsOf root = pre ++ element :: post ∧
        ReadFor formats (linked.map (SpecKey.of formats)).toFinset element = true ∧ ∀ other ∈ post,
          ReadFor formats (linked.map (SpecKey.of formats)).toFinset other = false := by
  dsimp only [origin]
  split
  next empty => exact ⟨nofun, fun got => absurd empty got.1⟩
  next nonempty =>
  rw [find?_eq_some_iff_append]
  constructor
  · rintro ⟨here, pre, post, split, none⟩
    refine ⟨nonempty, post.reverse, pre.reverse, ?_, here, ?_⟩
    · simpa using congrArg reverse split
    · intro other mem
      simpa using none other (mem_reverse.mp mem)
  · rintro ⟨-, pre, post, split, here, none⟩
    refine ⟨here, post.reverse, pre.reverse, ?_, ?_⟩
    · rw [split]
      simp
    · intro other mem
      simp [none other (mem_reverse.mp mem)]

/-- A configuration is looked up for precisely the monitors of its element, all of it having
been read, when the last element that can be read for them is read in whole. -/
theorem matched_whole_iff {parseXml : Text → Option Node} {xml : Text}
    (parsed : parseXml xml = some root)
    (version : isVersion2 root = true) (connected : List OutputName) :
    (∀ configuration, ((MonitorsConfig.parse formats parseXml xml).bind fun config =>
        config.configurationFor formats connected) = some configuration →
      ∃ element, origin formats root connected = some element ∧
        readConfiguration formats element = some configuration ∧
        specs formats element = (connected.map (SpecKey.of formats)).toFinset ∧
        FullyRead formats element) ↔ ((connected.map (SpecKey.of formats)).toFinset ≠ ∅ →
        ∀ before element after, configurationsOf root = before ++ element :: after →
          ReadFor formats (connected.map (SpecKey.of formats)).toFinset element = true →
          (∀ other ∈ after,
            ReadFor formats (connected.map (SpecKey.of formats)).toFinset other = false) →
          Whole formats element) := by
  rw [MonitorsConfig.parse, parsed, Option.map_some, Option.bind_some,
    configurationFor_ofRoot version]
  constructor
  · intro precise nonempty before element after split here none
    have found := origin_eq_some.mpr ⟨nonempty, before, after, split, here, none⟩
    obtain ⟨configuration, read, same⟩ := (Option.any_eq_true _ _).mp here
    rw [found, Option.bind_some] at precise
    obtain ⟨_, otherFound, -, covered, fully⟩ := precise configuration read
    cases otherFound
    rw [← of_decide_eq_true same] at covered
    exact (whole_iff read).mp ⟨covered, fully⟩
  · intro whole _ looked
    obtain ⟨element, found, read⟩ := Option.bind_eq_some_iff.mp looked
    obtain ⟨nonempty, before, after, split, here, none⟩ := origin_eq_some.mp found
    obtain ⟨covered, fully⟩ :=
      (whole_iff read).mpr (whole nonempty before element after split here none)
    obtain ⟨_, otherRead, same⟩ := (Option.any_eq_true _ _).mp here
    cases read.symm.trans otherRead
    rw [of_decide_eq_true same] at covered
    exact ⟨element, found, read, covered, fully⟩

/-- Whole numbers for all numbers. -/
def wholeNumbers : Formats Int where
  toLowercase := List.map Char.toLower
  parse := parseI32
  isPositive value := decide (0 < value)
  asI32 := id

def tagged (name : String) (inner : List Node) : Node := .element name.toList [] inner

def wording (name content : String) : Node := tagged name [.text content.toList]

/-- A logical monitor, after what stands for its scale. -/
def logicalMonitor (scale : List Node) (connector : String) : Node :=
  tagged "logicalmonitor"
    (scale ++ [tagged "monitor" [tagged "monitorspec" [wording "connector" connector]]])

/-- A dock and a panel, with what stands for the panel's scale. -/
def dockAndPanel (scale : List Node) : Node :=
  .element "monitors".toList [("version".toList, "2".toList)]
    [tagged "configuration"
      [logicalMonitor [wording "scale" "1"] "DP-1", logicalMonitor scale "eDP-1"]]

/-- The text of the same document. -/
def dockAndPanelXml (scale : String) : Text :=
  ("<monitors version='2'><configuration><logicalmonitor><scale>1</scale><monitor>" ++
    "<monitorspec><connector>DP-1</connector></monitorspec></monitor></logicalmonitor>" ++
    "<logicalmonitor>" ++ scale ++ "<monitor><monitorspec><connector>eDP-1</connector>" ++
    "</monitorspec></monitor></logicalmonitor></configuration></monitors>").toList

/-- Knows two documents: one in which both monitors have a scale, and one in which the panel
has none. -/
def knownDocuments (xml : Text) : Option Node :=
  if xml = dockAndPanelXml "<scale>2</scale>" then some (dockAndPanel [wording "scale" "2"])
  else if xml = dockAndPanelXml "" then some (dockAndPanel [])
  else none

def dock : OutputName := ⟨"DP-1".toList, none, none⟩

def panel : OutputName := ⟨"eDP-1".toList, none, none⟩

theorem matched_whole_dockAndPanel :
    ∃ root, knownDocuments (dockAndPanelXml "<scale>2</scale>") = some root ∧
      isVersion2 root = true ∧ (origin wholeNumbers root [panel, dock]).isSome = true ∧
      ∀ configuration, ((MonitorsConfig.parse wholeNumbers knownDocuments
          (dockAndPanelXml "<scale>2</scale>")).bind fun config =>
            config.configurationFor wholeNumbers [panel, dock]) = some configuration →
        ∃ element, origin wholeNumbers root [panel, dock] = some element ∧
          readConfiguration wholeNumbers element = some configuration ∧
          specs wholeNumbers element = ([panel, dock].map (SpecKey.of wholeNumbers)).toFinset ∧
          FullyRead wholeNumbers element := by
  have parsed : knownDocuments (dockAndPanelXml "<scale>2</scale>") =
      some (dockAndPanel [wording "scale" "2"]) := if_pos rfl
  refine ⟨_, parsed, by decide +kernel, by decide +kernel, ?_⟩
  apply (matched_whole_iff parsed (by decide +kernel) _).mpr
  intro _ _ element _ split _ _
  have whole : ∀ element ∈ configurationsOf (dockAndPanel [wording "scale" "2"]),
      Whole wholeNumbers element := by decide +kernel
  apply whole element
  rw [split]
  exact mem_append_right _ (.head _)

/-- Without the panel's scale the configuration of both is applied to the dock alone. -/
theorem matched_by_readable_part :
    ∃ root, knownDocuments (dockAndPanelXml "") = some root ∧ isVersion2 root = true ∧
      ((MonitorsConfig.parse wholeNumbers knownDocuments (dockAndPanelXml "")).bind
        fun config => config.configurationFor wholeNumbers [dock]).isSome = true ∧
      ∀ element ∈ configurationsOf root,
        specs wholeNumbers element = ([panel, dock].map (SpecKey.of wholeNumbers)).toFinset ∧
        specs wholeNumbers element ≠ ([dock].map (SpecKey.of wholeNumbers)).toFinset ∧
        ¬ FullyRead wholeNumbers element := by
  have parsed : knownDocuments (dockAndPanelXml "") = some (dockAndPanel []) := by
    unfold knownDocuments
    rw [if_neg (by decide +kernel), if_pos rfl]
  refine ⟨_, parsed, by decide +kernel, ?_, by decide +kernel⟩
  rw [MonitorsConfig.parse, parsed]
  decide +kernel

end Synoik.MonitorsXml
