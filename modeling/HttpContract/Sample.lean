import HttpContract.CommandLine.Target
import HttpContract.Rehearsal.Catalogue

/-!
# A sample interface

A module `sample` with one interface over users, which shows how interfaces are written down.
-/

namespace HttpContract.Sample

def user : Hint := .cls { name := "User" }

def userId : Formal := { name := "user_id", hint := some ((Hint.cls .int).annotate [.path]) }

/-- A method at a place among the members. -/
def method (member : Nat) (name : String) (verb : Verb) (url : String) (formals : List Formal)
    (result : Hint) (doc : String) : String × Member :=
  (name, .callable (.function
    { name, home := ⟨0, member⟩, qualname := "Users." ++ name
      formals := Function.withReceiver formals
      result := some result
      declared := .exchange (Exchange.withVerb verb { url })
      doc := some doc }))

def users : Interface where
  name := "Users"
  declared := .exchange { url := "/users", accept := ["application/json"] }
  members :=
    [ method 0 "get_user" .get "/\x7buser_id\x7d" [userId] user "Fetch one user.",
      method 1 "find_user" .get "/\x7buser_id\x7d" [userId] (.unionOf true [user, .nothing])
        "Fetch one user, if there is one.",
      method 2 "delete_user" .delete "/\x7buser_id\x7d" [userId]
        (.generic .awaitable [.nothing]) "Delete one user.",
      method 3 "watch" .get "/events" [] (.generic .asyncIterator [user])
        "Stream users as they change." ]

def sample : CommandLine.Module := { name := "sample", interfaces := ⟨[users]⟩ }

end HttpContract.Sample
