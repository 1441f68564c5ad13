namespace Courier

/-- The most calls the host allows in progress at once, counting its own functions and the
calls into its native code that check the limit; the call beyond it fails with a recursion
error. Functions that walk nested data take the number of calls in progress, so the limits they
meet follow from where they are called. -/
def callLimit : Nat := 1000

/-- The calls in progress when the command layer calls into the library: the program, its loop
over requests, the dispatcher and the handler of the request. -/
def entryDepth : Nat := 4

/-- The kind of call that meets the limit: a function of the host language, or a call into
native code. -/
inductive DeepCall where
  | function
  | native
  deriving Repr, BEq

def DeepCall.message : DeepCall → String
  | .function => "maximum recursion depth exceeded"
  | .native => "maximum recursion depth exceeded while calling a Python object"

end Courier
