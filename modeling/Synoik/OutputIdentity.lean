import Mathlib.Data.String.Basic
import Mathlib.Data.List.Basic

/-!
# Which display

One type answers this question for the live layout, the session store and the
monitor configuration. A display matches on its connector, ASCII case aside,
and is vetoed by an EDID field that both sides recorded and that differs.
Because an unrecorded field vetoes nothing, matching is reflexive and symmetric
but not transitive.
-/

namespace Synoik

/-- ASCII lower case, as the characters of the text. -/
def lowercase (text : String) : List Char := text.toList.map Char.toLower

def eqIgnoreAsciiCase (left right : String) : Bool := lowercase left == lowercase right

structure OutputIdentity where
  connector : String
  vendor : Option String := none
  product : Option String := none
  serial : Option String := none
deriving DecidableEq

/-- A connected display. Two handles are the same output only when they are
one object, which `handle` stands for; the identity is what the display reports
about itself. -/
structure Output where
  handle : Nat
  identity : OutputIdentity
  make : Option String := none
deriving DecidableEq

namespace Output

def name (output : Output) : String := output.identity.connector

def formatMakeModelSerial (output : Output) : String :=
  let field (known : Option String) := known.getD "Unknown"
  field output.make ++ " " ++ field output.identity.product ++ " " ++ field output.identity.serial

/-- Whether a configured name means this display: by its connector, or by its make, model and
serial, if it reports any of them. -/
def matchesName (output : Output) (target : String) : Bool :=
  if eqIgnoreAsciiCase target output.name then
    true
  else if output.make.isNone && output.identity.product.isNone &&
      output.identity.serial.isNone then
    false
  else
    -- The source compares field by field, with one blank between two fields.
    eqIgnoreAsciiCase target output.formatMakeModelSerial

lemma matchesName_of_name {output : Output} {target : String}
    (same : eqIgnoreAsciiCase target output.name = true) : output.matchesName target = true :=
  if_pos same

end Output

namespace OutputIdentity

def fromOutput (output : Output) : OutputIdentity := output.identity

def fromConnector (connector : String) : OutputIdentity :=
  { connector }

/-- Two recorded fields agree up to case; an absent one is not a mismatch. -/
def agrees : Option String → Option String → Bool
  | some left, some right => eqIgnoreAsciiCase left right
  | _, _ => true

def matchesIdentity (self other : OutputIdentity) : Bool :=
  if !eqIgnoreAsciiCase self.connector other.connector then
    false
  else
    agrees self.vendor other.vendor &&
      agrees self.product other.product &&
      agrees self.serial other.serial

def isEmpty (self : OutputIdentity) : Bool := self.connector == ""

def matchesOutput (self : OutputIdentity) (output : Output) : Bool :=
  self.matchesIdentity (fromOutput output)

end OutputIdentity

@[simp] lemma eqIgnoreAsciiCase_iff {left right : String} :
    eqIgnoreAsciiCase left right = true ↔ lowercase left = lowercase right := by
  simp [eqIgnoreAsciiCase]

lemma eqIgnoreAsciiCase_comm (left right : String) :
    eqIgnoreAsciiCase left right = eqIgnoreAsciiCase right left := by
  rw [Bool.eq_iff_iff, eqIgnoreAsciiCase_iff, eqIgnoreAsciiCase_iff, eq_comm]

namespace OutputIdentity

lemma agrees_self (field : Option String) : agrees field field = true := by
  cases field <;> simp [agrees]

lemma matchesIdentity_self (self : OutputIdentity) : self.matchesIdentity self = true := by
  simp [matchesIdentity, agrees_self, eqIgnoreAsciiCase]

@[simp] lemma fromOutput_matchesOutput (out : Output) : (fromOutput out).matchesOutput out = true :=
  matchesIdentity_self _

/-- A connector alone has no field to veto a display with. -/
@[simp] lemma fromConnector_matchesOutput (connector : String) (out : Output) :
    (fromConnector connector).matchesOutput out = eqIgnoreAsciiCase connector out.name := by
  cases same : eqIgnoreAsciiCase connector out.identity.connector <;>
    simp [matchesOutput, matchesIdentity, fromConnector, fromOutput, Output.name, agrees, same]

lemma lowercase_connector_of_matches
    {self other : OutputIdentity} (same : self.matchesIdentity other = true) :
    lowercase self.connector = lowercase other.connector := by
  unfold matchesIdentity at same
  split at same
  · simp at same
  next agree => simpa using agree

end OutputIdentity

end Synoik
