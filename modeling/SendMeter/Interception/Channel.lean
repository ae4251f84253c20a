import SendMeter.Text.Quoted

namespace SendMeter

/-- A channel that messages are sent on. Purging it is counted. -/
structure Channel where
  name : String
  isAsync : Bool
  purged : Nat
deriving DecidableEq, Repr

/-- What an attribute of a channel is. -/
inductive Attribute where
  | text (s : String)
  | count (n : Nat)
  | callable
  | nothing
deriving DecidableEq, Repr

namespace Channel

def named (name : String) (isAsync : Bool) : Channel := ⟨name, isAsync, 0⟩

def typeName (c : Channel) : String :=
  if c.isAsync then "FakeAsyncChannel" else "FakeChannel"

def describe (c : Channel) : String :=
  c.typeName ++ "(" ++ Text.quoted c.name ++ ")"

def purge (c : Channel) : Channel :=
  { c with purged := c.purged + 1 }

def attribute? (c : Channel) : String → Option Attribute
  | "name" => some (.text c.name)
  | "purged" => some (.count c.purged)
  | "purge" => some .callable
  | "send" => some .callable
  | _ => none

/-- The attributes that every object has. All of them can be called. -/
def objectAttributes : List String :=
  ["__class__", "__delattr__", "__dir__", "__eq__", "__format__", "__ge__", "__getattribute__",
    "__getstate__", "__gt__", "__hash__", "__init__", "__init_subclass__", "__le__", "__lt__",
    "__ne__", "__new__", "__reduce__", "__reduce_ex__", "__repr__", "__setattr__", "__sizeof__",
    "__str__", "__subclasshook__"]

/-- The attributes by which a proxy finds those of its channel and sends on it. -/
def proxyAttributes : List String := ["__getattr__", "_send_async"]

/-- What a proxy says about itself. -/
def proxyDescription : String :=
  "\n    Proxy that monitors ``send`` on a wrapped channel.\n\n" ++
    "    Only send calls are timed and counted; every other attribute is\n" ++
    "    passed through to the wrapped channel untouched. Async channels\n" ++
    "    (coroutine ``send``) are supported transparently.\n    "

/-- An attribute of a proxy over a channel. -/
def proxyAttribute? (c : Channel) (key : String) : Option Attribute :=
  if objectAttributes.contains key || proxyAttributes.contains key then some .callable
  else match key with
    | "__doc__" => some (.text proxyDescription)
    | "__module__" => some (.text "channel_monitor.monitoring.interceptor")
    | "__weakref__" => some .nothing
    | _ => c.attribute? key

/-- A proxy over a channel, by the name of its monitor. -/
def describeProxy (c : Channel) (monitor : String) : String :=
  "MonitoredChannel(" ++ c.describe ++ ", monitor=" ++ Text.quoted monitor ++ ")"

end Channel

end SendMeter
