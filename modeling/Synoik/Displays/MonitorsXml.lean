import Mathlib.Data.Finset.Dedup
import Mathlib.Data.Finset.Image
import Synoik.Support.Offsets

/-!
# The display store

Display configurations are kept in an XML document, each under the set of the monitors that
it covers. The tree that a document reads to, what its numbers stand for, and how letters are
folded to lower case, is given.
-/

namespace Synoik.MonitorsXml

abbrev Text := List Char

/-- A node of a document, an element under its name without the namespace. Comments and
processing instructions carry nothing. -/
inductive Node where
  | element (name : Text) (attributes : List (Text × Text)) (children : List Node)
  | text (chars : Text)
  | comment

namespace Node

def name : Node → Text
  | element name _ _ => name
  | _ => []

def attributes : Node → List (Text × Text)
  | element _ attributes _ => attributes
  | _ => []

def children : Node → List Node
  | element _ _ children => children
  | _ => []

def isElement : Node → Bool
  | element _ _ _ => true
  | _ => false

end Node

mutual

def Node.within : Node → List Node
  | .element name attributes children => .element name attributes children :: withinAll children
  | .text chars => [.text chars]
  | .comment => [.comment]

def withinAll : List Node → List Node
  | [] => []
  | node :: rest => node.within ++ withinAll rest

end

lemma Node.mem_within_self (node : Node) : node ∈ node.within := by
  cases node <;> simp [Node.within]

variable {node other : Node}

lemma mem_withinAll {nodes : List Node} (has : node ∈ nodes)
    (inside : other ∈ node.within) : other ∈ withinAll nodes := by
  induction nodes with
  | nil => cases has
  | cons _ _ ih =>
    rw [withinAll, List.mem_append]
    rcases List.mem_cons.mp has with rfl | later
    · exact .inl inside
    · exact .inr (ih later)

lemma Node.mem_within_of_child {child : Node} (has : child ∈ node.children)
    (inside : other ∈ child.within) : other ∈ node.within := by
  cases node with
  | element => exact .tail _ (mem_withinAll has inside)
  | text | comment => cases has

/-- Reading of floating point numbers, and the folding of letters. -/
structure Formats (Real : Type) where
  toLowercase : Text → Text
  parse : Text → Option Real
  isPositive : Real → Bool
  asI32 : Real → Int

inductive Transform where
  | normal
  | rotated90
  | rotated180
  | rotated270
  | flipped
  | flipped90
  | flipped180
  | flipped270

structure SavedMode (Real : Type) where
  width : Int
  height : Int
  rate : Real

structure SavedMonitor (Real : Type) where
  connector : Text
  vendor : Option Text
  product : Option Text
  serial : Option Text
  mode : Option (SavedMode Real)

structure SavedLogicalMonitor (Real : Type) where
  x : Int
  y : Int
  scale : Real
  isPrimary : Bool
  transform : Transform
  monitors : List (SavedMonitor Real)

structure SavedConfiguration (Real : Type) where
  logicalMonitors : List (SavedLogicalMonitor Real)

structure MonitorsConfig (Real : Type) where
  configurations : List (SavedConfiguration Real) := []

structure OutputName where
  connector : Text
  model : Option Text
  serial : Option Text

/-- A monitor as the store knows it: its connector, product and serial. -/
structure SpecKey where
  connector : Text
  product : Text
  serial : Text
deriving DecidableEq

variable {Real : Type} (formats : Formats Real)

variable (chars : Text)

def hasTag (tag : String) (node : Node) : Bool := node.isElement && node.name = tag.toList

/-- The text that an element starts with. -/
def firstText (node : Node) : Option Text :=
  match node.children with
  | .text chars :: _ => some chars
  | _ => none

def text (parent : Node) (tag : String) : Option Text :=
  ((parent.children.find? (hasTag tag)).bind firstText).map Offsets.trim

def digit (char : Char) : Option Nat :=
  if '0' ≤ char ∧ char ≤ '9' then some (char.toNat - '0'.toNat) else none

def decimal (digits : Text) : Option Nat :=
  if digits.isEmpty then none
  else digits.foldlM (fun total char => (digit char).map fun value => total * 10 + value) 0

def parseI32 : Option Int :=
  let value :=
    match chars with
    | '-' :: digits => (decimal digits).map fun value => -(value : Int)
    | '+' :: digits => (decimal digits).map fun value => (value : Int)
    | digits => (decimal digits).map fun value => (value : Int)
  value.filter fun value => -2147483648 ≤ value ∧ value ≤ 2147483647

variable (logical : Node)

def parseTransform : Transform :=
  match logical.children.find? (hasTag "transform") with
  | none => .normal
  | some element =>
    let isFlipped := text element "flipped" == some "yes".toList
    let rotation := (text element "rotation").getD "normal".toList
    if rotation = "left".toList then if isFlipped then .flipped90 else .rotated90
    else if rotation = "upside_down".toList then
      if isFlipped then .flipped180 else .rotated180
    else if rotation = "right".toList then if isFlipped then .flipped270 else .rotated270
    else if rotation = "normal".toList then if isFlipped then .flipped else .normal
    else .normal

variable (monitor : Node)

def readMode : Option (SavedMode Real) :=
  (monitor.children.find? (hasTag "mode")).bind fun mode =>
    let num (tag : String) := (text mode tag).bind formats.parse
    (num "width").bind fun width =>
      (num "height").bind fun height =>
        (num "rate").map fun rate =>
          { width := formats.asI32 width, height := formats.asI32 height, rate }

def specOf : Option Node := monitor.children.find? (hasTag "monitorspec")

def monitorsOf : List Node := logical.children.filter (hasTag "monitor")

variable (configuration : Node)

def logicalsOf : List Node := configuration.children.filter (hasTag "logicalmonitor")

variable (root : Node)

def configurationsOf : List Node := root.children.filter (hasTag "configuration")

def readMonitor : Option (SavedMonitor Real) :=
  (specOf monitor).bind fun spec =>
    (text spec "connector").map fun connector =>
      { connector
        vendor := text spec "vendor"
        product := text spec "product"
        serial := text spec "serial"
        mode := readMode formats monitor }

def readLogical : Option (SavedLogicalMonitor Real) :=
  ((text logical "scale").bind formats.parse).bind fun scale =>
    if formats.isPositive scale then
      let monitors := (monitorsOf logical).filterMap (readMonitor formats)
      if monitors.isEmpty then none
      else
        some
          { x := ((text logical "x").bind parseI32).getD 0
            y := ((text logical "y").bind parseI32).getD 0
            scale
            isPrimary := text logical "primary" == some "yes".toList
            transform := parseTransform logical
            monitors }
    else none

def readConfiguration : Option (SavedConfiguration Real) :=
  let logicalMonitors := (logicalsOf configuration).filterMap (readLogical formats)
  if logicalMonitors.isEmpty then none else some { logicalMonitors }

def isVersion2 : Bool :=
  root.name = "monitors".toList &&
    ((root.attributes.find? fun pair => pair.1 = "version".toList).map Prod.snd == some "2".toList)

def MonitorsConfig.ofRoot : MonitorsConfig Real :=
  if isVersion2 root then
    { configurations := (configurationsOf root).filterMap (readConfiguration formats) }
  else {}

/-- The root of a document, or none for an error of the XML, comes from the parser. -/
def MonitorsConfig.parse (parseXml : Text → Option Node) (xml : Text) :
    Option (MonitorsConfig Real) :=
  (parseXml xml).map (MonitorsConfig.ofRoot formats)

def SpecKey.new (connector product serial : Text) : SpecKey where
  connector := formats.toLowercase connector
  product := formats.toLowercase product
  serial := formats.toLowercase serial

def SpecKey.of (name : OutputName) : SpecKey :=
  SpecKey.new formats name.connector (name.model.getD []) (name.serial.getD [])

def SavedMonitor.key (monitor : SavedMonitor Real) : SpecKey :=
  SpecKey.new formats monitor.connector (monitor.product.getD []) (monitor.serial.getD [])

def SavedConfiguration.key (configuration : SavedConfiguration Real) : Finset SpecKey :=
  ((configuration.logicalMonitors.flatMap SavedLogicalMonitor.monitors).map
    (SavedMonitor.key formats)).toFinset

def SpecKey.ofSpec (spec : Node) : SpecKey :=
  SpecKey.new formats ((text spec "connector").getD []) ((text spec "product").getD [])
    ((text spec "serial").getD [])

def SpecKey.setOf : Finset SpecKey :=
  (((((logicalsOf configuration).flatMap Node.children).filter (hasTag "monitor")).filterMap
    specOf).map (SpecKey.ofSpec formats)).toFinset

/-- The last of some configurations with a key. -/
def lookup (configurations : List (SavedConfiguration Real)) (key : Finset SpecKey) :
    Option (SavedConfiguration Real) :=
  if key = ∅ then none
  else configurations.reverse.find? fun configuration => configuration.key formats = key

def MonitorsConfig.configurationFor (config : MonitorsConfig Real)
    (connected : List OutputName) : Option (SavedConfiguration Real) :=
  lookup formats config.configurations (connected.map (SpecKey.of formats)).toFinset

end Synoik.MonitorsXml
