import CallWatch.Checked
import CallWatch.Json.Parser
import CallWatch.Json.Printer
import CallWatch.Text.Decimal

/-!
# Wire forms

A `Form` says how values of a type stand in JSON: how one is written and which JSON values are
read as one.  A type may have several forms; a word, for instance, is written as a digest, as a
quantity or as a decimal number, depending on where it stands.

Records are written as objects, their members in a fixed order.  They are read from objects, where
unknown members are skipped and a known one must not stand twice, and from arrays of their fields
in order.  Alternatives are written as an object with one member, or as a string if they carry
nothing.

`Form.print` and `Form.parse?` go on to the text.
-/

namespace CallWatch

/-- How values of a type stand in JSON. -/
structure Form (α : Type) where
  write : α → Json
  read? : Json → Option α

namespace Form

/-- A value as JSON text. -/
def print {α : Type} (form : Form α) (a : α) : String :=
  (form.write a).render

/-- The value that a JSON text says. -/
def parse? {α : Type} (form : Form α) (text : String) : Option α :=
  (Json.parse? text).bind form.read?

/-! ### Plain values -/

/-- Texts as strings. -/
def text : Form String where
  write := .string
  read?
    | .string s => some s
    | _ => none

/-- Texts of a certain shape as strings. -/
def shaped {α : Type} (toText : α → String) (ofText? : String → Option α) : Form α where
  write a := .string (toText a)
  read?
    | .string s => ofText? s
    | _ => none

/-- Truth values. -/
def flag : Form Bool where
  write := .bool
  read?
    | .bool b => some b
    | _ => none

/-- Counters as integers. -/
def counter : Form UInt64 where
  write n := .number n.toNat
  read?
    | .number (.ofNat n) => Checked.ofNat n
    | _ => none

/-- Addresses by all their digits. -/
def address : Form Address :=
  shaped Address.toHex Address.ofHex?

/-- Words by all their digits. -/
def digest : Form Word :=
  shaped Word.toHex Word.ofHex?

/-- Words by their digits in base 16, without leading zeros. -/
def quantity : Form Word :=
  shaped (fun w => Hex.quantity w.toNat) Word.ofQuantity?

/-- Words by their digits in base 10. -/
def decimal : Form Word :=
  shaped Decimal.encode fun s => (Decimal.decode s).toOption

/-- Byte strings by their digits. -/
def bytes : Form Bytes :=
  shaped Hex.encode fun s => (Hex.decode s).toOption

/-! ### Compound values -/

/-- Lists as arrays. -/
def list {α : Type} (form : Form α) : Form (List α) where
  write as := .array (as.map form.write)
  read?
    | .array items => items.mapM form.read?
    | _ => none

/-- Values that may be missing, and are `null` then. -/
def optional {α : Type} (form : Form α) : Form (Option α) where
  write a? := a?.elim .null form.write
  read?
    | .null => some none
    | v => (form.read? v).map some

/-- Maps from words to words as objects, by ascending location; of two members of one location the
later one counts. -/
def wordMap : Form (Std.ExtTreeMap Word Word) where
  write m := .object (m.toList.map fun (k, v) => (k.toHex, digest.write v))
  read?
    | .object members =>
      members.foldlM (fun m (name, v) => do
        return m.insert (← Word.ofHex? name) (← digest.read? v)) ∅
    | _ => none

/-! ### Records -/

/-- The only entry of a list that has at most one; fails on longer lists. -/
def atMostOne? {α : Type} : List α → Option (Option α)
  | [] => some none
  | [a] => some (some a)
  | _ => none

/-- The fields of a record by name, each of which may be missing.  An object must not hold a field
twice; an array holds them in order and may leave out the last `spare` ones. -/
def fields? (names : List String) (spare : Nat) : Json → Option (List (Option Json))
  | .object members =>
    names.mapM fun name => atMostOne? ((members.filter (·.1 = name)).map (·.2))
  | .array items =>
    -- the fields that may be left out are the last ones
    if items.length ≤ names.length ∧ names.length ≤ items.length + spare then
      some (items.map some ++ List.replicate (names.length - items.length) none)
    else none
  | _ => none

/-- A field that must be there. -/
def required? {α : Type} (form : Form α) (field : Option Json) : Option α :=
  field.bind form.read?

/-- A field that is taken to be `default` if it is not there. -/
def defaulted? {α : Type} (form : Form α) (default : α) : Option Json → Option α
  | none => some default
  | some v => form.read? v

/-- A member that is left out if it has no value. -/
def member {α : Type} (name : String) (form : Form α) : Option α → List (String × Json)
  | none => []
  | some a => [(name, form.write a)]

/-! ### Alternatives -/

/-- An alternative that carries nothing. -/
def bare (name : String) : Json :=
  .string name

/-- An alternative with what it carries. -/
def carrying {α : Type} (name : String) (form : Form α) (a : α) : Json :=
  .object [(name, form.write a)]

/-- The name of an alternative and what it carries; the name alone stands for `null`, but cannot
carry it. -/
def alternative? : Json → Option (String × Option Json)
  | .string name => some (name, none)
  | .object [(name, v)] => some (name, some v)
  | _ => none

/-- Takes an alternative that carries nothing, which may be written with a `null`. -/
def bare? {α : Type} (a : α) : Option Json → Option α
  | none | some .null => some a
  | _ => none

end Form

end CallWatch
