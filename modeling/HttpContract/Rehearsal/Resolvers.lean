import HttpContract.Invocation
import HttpContract.Rehearsal.Script

/-!
# Scripted resolvers

One resolver for each kind of marker, and a few that watch a call or interfere with it.
-/

namespace HttpContract.Rehearsal

inductive ResolverKind where
  | path
  | header
  | setHeader
  | query
  | cookie
  | body
  | stream
  | uri
  | verb
  /-- Leaves an event for every offer. -/
  | record (label : String)
  /-- Refuses an argument. -/
  | reject (argument : String)
  /-- Completes the request upon an argument. -/
  | complete (argument : String)
  /-- Keeps the request of each call and edits it during the next one. -/
  | leak
deriving Repr, DecidableEq, Inhabited

/-- Edits a request in order. -/
def edited (edits : List Request.Edit) (r : Request) (s : Stage) :
    Except Failure Unit × Request × Stage :=
  match r.editAll edits with
  | (.ok (), r) => (.ok (), r, s)
  | (.error e, r) => (.error (.request e), r, s)

/-- The values of an argument that stands for several when it is a list. -/
def several : Value → List Value
  | .list vs => vs
  | v => [v]

/-- The edits that an argument calls for at the place its parameter is marked with. -/
def placed (kind : ResolverKind) (v : Value) (p : Parameter) : Except Failure (List Request.Edit) :=
  match kind with
  | .path => .ok (if p.has .path then [.setVariable p.name v] else [])
  | .header => .ok (headerEdits .addHeader)
  | .setHeader => .ok (headerEdits .setHeader)
  | .query =>
    .ok (if p.has .query && !v.isNull then (several v).map fun x => .addQuery p.name x.text else [])
  | .cookie => .ok (if p.has .cookie && !v.isNull then [.addCookie p.name v.text] else [])
  | .body => .ok (if p.has .body then [.setBody v] else [])
  | .stream => .ok (if p.has .stream then [.setPublisher v p.hint] else [])
  | .uri => .ok (if p.has .uri && !v.isNull then [.setUri v] else [])
  | .verb =>
    if p.has .verb && !v.isNull then (Verb.ofValue v).map fun verb => [.setVerb verb] else .ok []
  | _ => .ok []
where
  headerEdits (edit : String → String → Request.Edit) : List Request.Edit :=
    match p.find? .header with
    | some (.header name) => if v.isNull then [] else [edit name v.text]
    | _ => []

/-- Edits the kept request of an earlier call, if there is one, and keeps the current one. -/
def leakAt (place : Nat) (s : Stage) : Stage :=
  let s' := { s with kept := s.kept.put place s.call }
  match s.kept.get? place with
  | none => s'
  | some call =>
    if call = s.call then s'
    else s'.see (.leak (if s.openCalls.contains call then none else some (.request .complete)))

/-- The resolver of a kind at a place among the others. -/
def ResolverKind.resolver (kind : ResolverKind) (place : Nat) : Resolver Stage where
  resolve v p r s :=
    match kind with
    | .record label => (.ok (), r, s.see (.offer label p v))
    | .reject argument =>
      if v == .str argument then
        (.error (.raised { kind := "ValueError", text := "rejected " ++ p.name }), r, s)
      else (.ok (), r, s)
    | .complete argument => (.ok (), if v == .str argument then r.finish else r, s)
    | .leak => (.ok (), r, leakAt place s)
    | kind =>
      match placed kind v p with
      | .ok edits => edited edits r s
      | .error e => (.error e, r, s)

/-- The resolvers of a list of kinds, in order. -/
def resolversOf (kinds : List ResolverKind) : List (Resolver Stage) :=
  kinds.zipIdx.map fun (kind, place) => kind.resolver place

end HttpContract.Rehearsal
