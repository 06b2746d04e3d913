import HttpContract.Hint.Scope

/-!
# A catalogue of sample classes

Classes to rehearse interfaces with: plain records, containers of one value and streams of their own
making, and classes under the builtin ones. `atom?` gives the hint that a name stands for, and `scope`
looks up dotted names.
-/

namespace HttpContract.Rehearsal

/-! ## Classes -/

def samples : List Class := [
  { name := "User" },
  { name := "Event" },
  { name := "Outer" },
  { name := "Outer.Inner" },
  { name := "Completion" },
  { name := "Completed", ancestors := ["Completion"] },
  { name := "Mono", takesHints := true },
  { name := "SubMono", ancestors := ["Mono"], takesHints := true },
  { name := "Flux", takesHints := true },
  { name := "SubFlux", ancestors := ["Flux"], takesHints := true },
  { name := "MonoFlux", ancestors := ["Mono", "Flux"], takesHints := true },
  { name := "SubFuture", ancestors := ["Future"] },
  { name := "SubHeaders", ancestors := ["Headers", "Iterable"] },
  { name := "SubEntity", ancestors := ["ResponseEntity"], takesHints := true },
  { name := "Ready", ancestors := ["Awaitable"] },
  { name := "Ticker", ancestors := ["AsyncIterator", "AsyncIterable"] },
  { name := "Hybrid", ancestors := ["Ticker", "Awaitable", "AsyncIterator", "AsyncIterable"] },
  { name := "Cursor", ancestors := ["Iterator", "Iterable"] }]

def classes : List Class := Class.builtin ++ samples

/-- The class of a name. -/
def class? (name : String) : Option Class := classes.find? fun c => c.name = name

/-! ## Names -/

/-- The hint that a name stands for. -/
def atom? (name : String) : Option Hint :=
  match name with
  | "None" => some .nothing
  | "..." => some .ellipsis
  | "T" => some (.typeVar "T")
  | name => (class? name).map Hint.cls

/-- The names that a hint given by name may use. Members are the classes of the longer name. -/
def scope : Scope where
  find? name := if name.contains '.' then none else atom? name
  member? c name := (class? (c.name ++ "." ++ name)).map Hint.cls

end HttpContract.Rehearsal
