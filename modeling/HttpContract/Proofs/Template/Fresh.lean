import HttpContract.Proofs.Headers.Writing
import HttpContract.Template

/-!
# Fresh requests

A fresh request is never refused by what its template declares: its header fields have not been read, so
they are written in UTF-8, which encodes any text.
-/

namespace HttpContract

namespace Template

/-! ## The request of a template -/

/-- The header fields that a template declares. -/
def headerFields (t : Template) : List HeaderField :=
  (t.contentType.map fun m => HeaderField.make "Content-Type".toUTF8 m.text.toUTF8).toList
    ++ (t.accept.map fun ms => HeaderField.make "Accept".toUTF8 (acceptText ms).toUTF8).toList

/-- What the template declares, and nothing else. -/
def fresh (t : Template) : Request :=
  { verb := t.verb, template := t.url, headers := { fields := t.headerFields } }

theorem size_lowerBytes (b : ByteArray) : (lowerBytes b).data.size = b.size :=
  Array.size_map

/-- The two fields of a template do not replace each other. -/
theorem contentType_key_ne_accept_key :
    (lowerBytes "Content-Type".toByteArray).data ≠ (lowerBytes "Accept".toByteArray).data := by
  intro h
  have hsize := congrArg Array.size h
  rw [size_lowerBytes, size_lowerBytes] at hsize
  revert hsize
  decide

theorem newRequest_eq (t : Template) : t.newRequest = (.ok (), t.fresh) := by
  obtain ⟨verb, url, contentType, accept⟩ := t
  cases verb <;> cases url <;> cases contentType <;> cases accept <;>
    simp [newRequest, fresh, edits, headerFields, Request.editAll, Request.edit, Request.editOpen,
      Request.setHeader, Headers.set_of_unread, Headers.replace, HeaderField.make,
      contentType_key_ne_accept_key]

end Template

end HttpContract
