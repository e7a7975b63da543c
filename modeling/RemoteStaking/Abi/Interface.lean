import RemoteStaking.Abi.Basic
import RemoteStaking.Hash.Keccak

/-!
# `RemoteStaking.Abi.Interface` — what a contract offers

## Contents
- **`Param`**, **`Method`**, **`Event`**, **`Interface`**: names and kinds.
- **`Method.selector`**, **`Event.topic`**: the digests by which calls and logs name them.
- **`Interface.method`**, **`Interface.event`**, **`Interface.bySelector?`**: look-up.
-/

namespace RemoteStaking.Abi

/-- A parameter of a method. -/
structure Param where
  name : String
  kind : Kind
deriving DecidableEq

/-- A parameter of an event. An indexed one is a topic of the log and not part of its data. -/
structure EventParam where
  name : String
  kind : Kind
  indexed : Bool
deriving DecidableEq

/-- A method and its parameters. -/
structure Method where
  name : String
  inputs : List Param
  outputs : List Param
deriving DecidableEq

/-- An event and its parameters. The logs of an anonymous event do not name it. -/
structure Event where
  name : String
  params : List EventParam
  anonymous : Bool
deriving DecidableEq

/-- The methods and events of a contract. -/
structure Interface where
  methods : List Method
  events : List Event
deriving DecidableEq

/-- The kinds between parentheses, separated by commas. -/
def kindsText (kinds : List Kind) : String :=
  "(" ++ ",".intercalate (kinds.map Kind.toText) ++ ")"

namespace Method

/-- The kinds of the arguments. -/
def kinds (m : Method) : List Kind :=
  m.inputs.map (·.kind)

/-- Name, arguments and results. -/
def signature (m : Method) : String :=
  m.name ++ kindsText m.kinds ++ ":" ++ kindsText (m.outputs.map (·.kind))

/-- The four bytes by which a call names the method. -/
def selector (m : Method) : List UInt8 :=
  (Hash.keccak256 (utf8 (m.name ++ kindsText m.kinds))).take 4

end Method

namespace Event

/-- The first topic of the event's logs. -/
def topic (e : Event) : List UInt8 :=
  Hash.keccak256 (utf8 (e.name ++ kindsText (e.params.map (·.kind))))

/-- The kinds of the values in the data of the event's logs. -/
def dataKinds (e : Event) : List Kind :=
  (e.params.filter fun p => !p.indexed).map (·.kind)

end Event

namespace Interface

/-- The method of the given name. -/
def method (i : Interface) (name : String) : Except AbiError Method :=
  match i.methods.find? (·.name = name) with
  | some m => .ok m
  | none => .error (.unknownName name)

/-- The event of the given name. -/
def event (i : Interface) (name : String) : Except AbiError Event :=
  match i.events.find? (·.name = name) with
  | some e => .ok e
  | none => .error (.unknownName name)

/-- The first method with the given selector. -/
def bySelector? (i : Interface) (selector : List UInt8) : Option Method :=
  i.methods.find? (·.selector = selector)

/-- No methods and no events. -/
def empty : Interface := ⟨[], []⟩

end Interface

end RemoteStaking.Abi
