import Mathlib.Logic.Basic

namespace Mbv.Surfaces

inductive Key where
  | backspace | enter | esc | left | right | up | down | home | endKey | pageUp | pageDown | tab
  | backTab | delete | insert
  | function (number : UInt8)
  | char (c : Char)
  | null
deriving DecidableEq

structure KeyModifiers where
  shift : Bool := false
  control : Bool := false
  alt : Bool := false
deriving DecidableEq

def KeyModifiers.isEmpty (modifiers : KeyModifiers) : Bool := modifiers = {}

structure KeyEvent where
  code : Key
  modifiers : KeyModifiers := {}

end Mbv.Surfaces
