import HttpContract.Hint.Class
import HttpContract.Value.Likeness

/-!
# Type hints

A hint is what an interface declares for a parameter or a result. `Hint.genericOf`, `Hint.unionOf`,
`Hint.annotate`, `Hint.callableOf` and `Hint.literalOf` build the compound hints in normal form: unions
are flat and repeat no member, an annotated hint holds no annotated hint, and a literal of fixed values
repeats none. `Hint.union?` refuses members that clash when they are compared.
-/

namespace HttpContract

/-! ## Markers -/

/-- What the annotations of a parameter say about its place in a request. -/
inductive Marker where
  | path
  | subpath
  | query
  | cookie
  | body
  | verb
  | uri
  | stream
  | header (name : String)
  | text (s : String)
deriving Repr, DecidableEq, Inhabited

inductive MarkerKind where
  | path | subpath | query | cookie | body | verb | uri | stream | header | text
deriving Repr, DecidableEq, Inhabited

namespace Marker

/-- A part of a path is also a path. -/
def isA : Marker → MarkerKind → Bool
  | path, .path => true
  | subpath, .path => true
  | subpath, .subpath => true
  | query, .query => true
  | cookie, .cookie => true
  | body, .body => true
  | verb, .verb => true
  | uri, .uri => true
  | stream, .stream => true
  | header _, .header => true
  | text _, .text => true
  | _, _ => false

/-- A marker is written anew wherever it stands and is the same as no other; texts are the same when they
read alike. -/
def same : Marker → Marker → Bool
  | text s, text t => s == t
  | _, _ => false

def sameList : List Marker → List Marker → Bool
  | [], [] => true
  | m :: ms, n :: ns => m.same n && sameList ms ns
  | _, _ => false

end Marker

/-! ## Hints -/

/-- Forms that build hints and are no classes. -/
inductive HintForm where
  | union
  | literal
deriving Repr, DecidableEq, Inhabited

inductive Hint where
  /-- The absent value, standing for its class. -/
  | nothing
  | ellipsis
  | typeVar (name : String)
  | cls (c : Class)
  | form (f : HintForm)
  | generic (origin : Class) (args : List Hint)
  /-- A union; `barred` when it is written with bars between its members. -/
  | union (barred : Bool) (members : List Hint)
  | annotated (inner : Hint) (metadata : List Marker)
  | literal (values : List Value)
  /-- A function; without parameters to name, it takes any. -/
  | callable (params : Option (List Hint)) (result : Hint)
  | sequence (hints : List Hint)
  /-- A value in the place of a hint. -/
  | value (v : Value)
  /-- The name of a hint that is looked up later. -/
  | forward (name : String)
deriving Repr, Inhabited

namespace Hint

/-- The hint of a parameter that declares none. -/
def any : Hint := cls .any

/-- The hint of the absent value. -/
def void : Hint := cls .void

/-! ## Sameness

Two hints are the same when they differ at most in the order of the members of their unions and
literals and in the spelling of the unions. -/

mutual

def same : Hint → Hint → Bool
  | nothing, nothing => true
  | ellipsis, ellipsis => true
  | typeVar a, typeVar b => a == b
  | cls c, cls d => c == d
  | form f, form g => f == g
  | generic c xs, generic d ys => c == d && sameList xs ys
  | union _ xs, union _ ys => included xs ys && xs.length == ys.length
  | annotated x ms, annotated y ns => x.same y && Marker.sameList ms ns
  | literal vs, literal ws =>
    vs.all (fun v => ws.any v.sameLiteral) && ws.all (fun w => vs.any w.sameLiteral)
  | callable none x, callable none y => x.same y
  | callable (some xs) x, callable (some ys) y => sameList xs ys && x.same y
  | sequence xs, sequence ys => sameList xs ys
  | value v, value w => v.sameLiteral w
  | forward a, forward b => a == b
  | _, _ => false

def sameList : List Hint → List Hint → Bool
  | [], [] => true
  | x :: xs, y :: ys => x.same y && sameList xs ys
  | _, _ => false

/-- Every hint of the first list has its like in the second. -/
def included : List Hint → List Hint → Bool
  | [], _ => true
  | x :: xs, ys => ys.any (fun y => x.same y) && included xs ys

end

/-! ## Clashes

Literals of values that may change cannot be compared with other literals. A comparison that comes upon
two such literals before it comes upon a difference clashes. -/

/-- The first clash with the members of a list, up to one that is the same. -/
def clashUntil (isLike : Hint → Bool) (clash : Hint → Option Value.Changing) :
    List Hint → Option Value.Changing
  | [] => none
  | h :: hs => (clash h).or (if isLike h then none else clashUntil isLike clash hs)

mutual

/-- The changing value on which the comparison of two hints clashes. -/
def clash? : Hint → Hint → Option Value.Changing
  | literal vs, literal ws => (vs.findSome? Value.changing?).or (ws.findSome? Value.changing?)
  | generic c xs, generic d ys => if c == d then clashList? xs ys else none
  | union _ xs, union _ ys => clashMembers? xs ys
  | annotated x _, annotated y _ => x.clash? y
  | callable none x, callable none y => x.clash? y
  | callable (some xs) x, callable (some ys) y =>
    (clashList? xs ys).or (if sameList xs ys then x.clash? y else none)
  | _, _ => none

def clashList? : List Hint → List Hint → Option Value.Changing
  | x :: xs, y :: ys => (x.clash? y).or (if x.same y then clashList? xs ys else none)
  | _, _ => none

def clashMembers? : List Hint → List Hint → Option Value.Changing
  | [], _ => none
  | x :: xs, ys =>
    (clashUntil (fun y => x.same y) (fun y => x.clash? y) ys).or
      (if ys.any fun y => x.same y then clashMembers? xs ys else none)

end

/-- The first clash of hints that are taken one after the other, where each is compared with those kept
before it. -/
def clashAmong? (kept : List Hint) : List Hint → Option Value.Changing
  | [] => none
  | h :: hs =>
    (clashUntil (fun k => k.same h) (fun k => k.clash? h) kept).or
      (clashAmong? (if kept.any fun k => k.same h then kept else kept ++ [h]) hs)

/-! ## Building -/

/-- The absent value stands for its class. -/
def asClass : Hint → Hint
  | nothing => void
  | h => h

/-- A class with arguments. -/
def genericOf (c : Class) (args : List Hint) : Hint :=
  generic c (if c.takesHints then args.map asClass else args)

/-- The members a hint brings into a union: those of a union, else itself; the absent value enters as
its class. -/
def members : Hint → List Hint
  | union _ ms => ms
  | nothing => [void]
  | h => [h]

/-- Keeps the first of several hints that are the same. -/
def distinct (hs : List Hint) : List Hint :=
  hs.foldl (fun kept h => if kept.any fun k => k.same h then kept else kept ++ [h]) []

/-- The union of hints; a union of one member is that member. -/
def unionOf (barred : Bool) (hs : List Hint) : Hint :=
  match distinct (hs.flatMap members) with
  | [h] => h
  | ms => union barred ms

/-- Why hints make no union. -/
inductive UnionError where
  /-- Members that clash. -/
  | changing (c : Value.Changing)
  /-- A bar joins hints, and absent values alone are none. -/
  | noHints
deriving Repr, DecidableEq, Inhabited

def UnionError.message : UnionError → String
  | changing c => c.message
  | noHints =>
    let kind := "'" ++ Value.null.kindName ++ "'"
    "unsupported operand type(s) for |: " ++ kind ++ " and " ++ kind

/-- The union of hints as it is written. -/
def union? (barred : Bool) (hs : List Hint) : Except UnionError Hint :=
  match barred, hs with
  | true, nothing :: nothing :: _ => .error .noHints
  | barred, hs =>
    match clashAmong? [] (hs.flatMap members) with
    | some c => .error (.changing c)
    | none => .ok (unionOf barred hs)

/-- A function from parameters; a single parameter left open admits any parameters. -/
def callableOf (params : Option (List Hint)) (result : Hint) : Hint :=
  match params with
  | some [ellipsis] => callable none result
  | params => callable params result

/-- Adds annotations after those a hint has. -/
def annotate (h : Hint) (metadata : List Marker) : Hint :=
  match h with
  | annotated inner ms => annotated inner (ms ++ metadata)
  | nothing => annotated void metadata
  | h => annotated h metadata

def distinctValues (vs : List Value) : List Value :=
  vs.foldl (fun kept v => if kept.any v.sameLiteral then kept else kept ++ [v]) []

/-- The literal of some values, of which the first of several like ones is kept. Values that may change
are not compared, nor are any others beside them. -/
def literalOf (vs : List Value) : Hint :=
  literal (if (vs.findSome? Value.changing?).isNone then distinctValues vs else vs)

end Hint

end HttpContract
