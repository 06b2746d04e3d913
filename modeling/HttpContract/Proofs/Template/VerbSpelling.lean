import HttpContract.Proofs.Template.Override

/-!
# Spellings of verbs

The verb of a declaration is accepted in every spelling of its name, and nothing else is
(`Template.readsVerb_of_effective`).
-/

namespace HttpContract

namespace Template

variable {method type : Option Exchange} {text : String}

/-- A declaration with nothing said in the part. -/
def Part.silenced (part : Part) (e : Option Exchange) : Option Exchange := e.map (part.copy {})

theorem verb?_of_effective (h : effective? Exchange.method method type = some text) :
    verb? method type = (readVerb text).map some := by
  rw [verb?_eq, h]
  rfl

theorem verb?_silenced : verb? (Part.verb.silenced method) (Part.verb.silenced type) = .ok none := by
  cases method <;> cases type <;> rfl

/-- What two declarations make of a text that is their effective verb. -/
structure ReadsVerb (method type : Option Exchange) (text : String) : Prop where
  /-- Where the text stands for a verb, the declarations make what they would make without it, with the
  verb. -/
  accepted : ∀ v : Verb, v.SpelledBy text → compile method type =
    (compile (Part.verb.silenced method) (Part.verb.silenced type)).map ({ · with verb := some v })
  /-- No other text makes a template. -/
  refused : (∀ v : Verb, ¬ v.SpelledBy text) → compile method type = .error (.verb text)
  /-- A text in ASCII stands for a verb if it is the name in any case. -/
  ascii : (∀ c ∈ Text.trim text.toList, Text.isAscii c = true) →
    ∀ v : Verb, v.SpelledBy text ↔ (Text.trim text.toList).map Char.toUpper = v.name.toList

/-- A verb is accepted in every spelling of its name, and nothing else is. -/
theorem readsVerb_of_effective (h : effective? Exchange.method method type = some text) :
    ReadsVerb method type text where
  accepted v hv := by
    have hread : readVerb text = .ok v := by rw [readVerb, Verb.ofDeclared?_eq_some_iff.mpr hv]
    have hcontentType : contentType? (Part.verb.silenced method) (Part.verb.silenced type) =
        contentType? method type := by
      cases method <;> cases type <;> rfl
    have haccept : accept? (Part.verb.silenced method) (Part.verb.silenced type) = accept? method type := by
      cases method <;> cases type <;> rfl
    have hurl : url? (Part.verb.silenced method) (Part.verb.silenced type) = url? method type := by
      cases method <;> cases type <;> rfl
    rw [compile, compile, verb?_of_effective h, hread, verb?_silenced, hcontentType, haccept, hurl]
    cases contentType? method type with
    | error e => rfl
    | ok contentType => cases accept? method type <;> rfl
  refused hnone := by
    have hread : readVerb text = .error (.verb text) := by
      unfold readVerb
      cases hverb : Verb.ofDeclared? text with
      | none => rfl
      | some v => exact absurd (Verb.ofDeclared?_eq_some_iff.mp hverb) (hnone v)
    rw [compile, verb?_of_effective h, hread]
    rfl
  ascii hascii v := Text.spells_iff_of_ascii hascii

/-- A ligature in the verb of an interface, between blanks. -/
theorem readsVerb_of_ligature :
    let type : Exchange := { url := "/notes", method := " Po\ufb06\n" }
    effective? Exchange.method none (some type) = some type.method ∧
      compile none (some type) = .ok { verb := some .post, url := some "/notes" } := by
  dsimp only
  have heffective : effective? Exchange.method none
      (some { url := "/notes", method := " Po\ufb06\n" }) = some " Po\ufb06\n" := rfl
  have hspelled : Verb.post.SpelledBy " Po\ufb06\n" := Verb.ofDeclared?_eq_some_iff.mp rfl
  refine ⟨heffective, ?_⟩
  rw [(readsVerb_of_effective heffective).accepted .post hspelled]
  rfl

/-- The long s makes a verb of a text that is no verb in any case. -/
theorem compile_verb_with_long_s :
    compile (some { method := "po\u017ft" }) none = .ok { verb := some .post } ∧
      ∀ v : Verb, (Text.trim "po\u017ft".toList).map Char.toUpper ≠ v.name.toList :=
  ⟨rfl, by intro v; cases v <;> decide⟩

end Template

end HttpContract
