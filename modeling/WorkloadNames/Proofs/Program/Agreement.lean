import WorkloadNames.Proofs.Json.RoundTrip
import WorkloadNames.Proofs.Program.Completion

/-!
Both formats of a result carry the same. A command that leads to one result succeeds exactly if the
library gives that result, whatever the format. It is then printed alone, or as the last member of
an object behind the arguments of the command; reading the object gives the arguments back as they
were, with every quote, backslash and control character in them.
-/

set_option autoImplicit false
set_option relaxedAutoImplicit false

namespace WorkloadNames.Program

open CommandLine Friendly

/-- What a run leaves behind whose command leads to one result. The result is the last member of an
object, behind the inputs; a run either prints it alone or prints a document that is read as this
object. -/
structure Shows (outcome : Outcome) (format : Format) (inputs : List (Text × Text)) (key : Text)
    (result? : Option Text) : Prop where
  /-- The run succeeds exactly if there is a result. -/
  exits : outcome.exitCode = 0 ↔ result?.isSome = true
  prints : ∀ result ∈ result?, ∃ document,
    Json.read? document = some (.object
        ((inputs ++ [(key, result)]).map fun (name, content) ↦ (name, .text content))) ∧
      outcome.output = (match format with | .table => result | .json => document) ++ ['\n']

variable {surroundings : Surroundings} {invocation : Invocation} {config : Config}
  {inputs : List (Text × Text)} {key : Text} {result? : Option Text}

/-- A result is printed alone or as a document that is read as the object of its members. -/
theorem exists_document (result : Text) (members : List (Text × Text)) :
    ∃ document,
      Json.read? document =
        some (.object (members.map fun (name, content) ↦ (name, .text content))) ∧
      ∀ format, single format result members =
        (match format with | .table => result | .json => document) ++ ['\n'] := by
  refine ⟨_, Json.read?_written .indented _, fun format ↦ ?_⟩
  cases format with
  | table => rfl
  | json => rfl

/-- A command that prints its result beside its inputs decides all that its run shows. -/
theorem shows_of_perform (h : surroundings.Reach invocation config)
    (hexits : (perform (invocation.format config) invocation.command).failure? = none ↔
      result?.isSome = true)
    (hprints : ∀ result ∈ result?, (perform (invocation.format config) invocation.command).output =
      single (invocation.format config) result (inputs ++ [(key, result)])) :
    Shows (run surroundings) (invocation.format config) inputs key result? where
  exits := h.exitCode_eq_zero_iff.trans hexits
  prints := by
    intro result hresult
    obtain ⟨document, hread, hsingle⟩ := exists_document result (inputs ++ [(key, result)])
    exact ⟨document, hread, by rw [h.output_eq, hprints result hresult, hsingle]⟩

/-- What the building of a name comes to is what its run shows. -/
theorem shows_of_naming (h : surroundings.Reach invocation config) (answer : Answer)
    (named : Text → Log.Event)
    (hperform : perform (invocation.format config) invocation.command =
      naming answer named fun result ↦
        single (invocation.format config) result (inputs ++ [(key, result)])) :
    Shows (run surroundings) (invocation.format config) inputs key answer.text? := by
  refine shows_of_perform h ?_ ?_
  · rw [hperform]
    cases answer <;> simp [naming, Answer.text?]
  · intro result hresult
    rw [hperform]
    cases answer with
    | built name =>
      obtain rfl := Option.some.inj hresult
      rfl
    | rejected rejection => exact absurd hresult (by simp [Answer.text?])
    | fault => exact absurd hresult (by simp [Answer.text?])

/-- The formats of a result agree with the library and with each other, and the inputs they show
are those that the command line spells. A name of an image is built from its tag and hash, one of an
instance from its name, namespace, kind and hash in this order, whatever the order of the arguments;
sanitizing always succeeds. -/
theorem formats_agree {surroundings : Surroundings} {invocation : Invocation} {config : Config}
    (h : surroundings.Reach invocation config) :
    invocation.IsGiven (surroundings.environment "FNAME_CONFIG".toList) surroundings.arguments ∧
    (∀ tag hash, invocation.command = .nameImage tag hash →
      Shows (run surroundings) (invocation.format config)
        [("image_tag".toList, tag), ("image_hash".toList, hash)] "friendly_name".toList
        (imageName tag hash).text?) ∧
    (∀ namespaceName kind name hash,
      invocation.command = .nameInstance namespaceName kind name hash →
      Shows (run surroundings) (invocation.format config)
        [("namespace".toList, namespaceName), ("kind".toList, kind), ("name".toList, name)]
        "friendly_name".toList (instanceName name namespaceName kind hash).text?) ∧
    ∀ raw, invocation.command = .sanitize raw →
      Shows (run surroundings) (invocation.format config) [("raw".toList, raw)]
        "sanitized".toList (some (sanitize raw)) := by
  refine ⟨h.isGiven, fun tag hash hcommand ↦ ?_, fun namespaceName kind name hash hcommand ↦ ?_,
    fun raw hcommand ↦ ?_⟩
  · refine shows_of_naming h _ .imageNamed ?_
    rw [hcommand]
    rfl
  · refine shows_of_naming h _ .instanceNamed ?_
    rw [hcommand]
    rfl
  · refine shows_of_perform h ?_ ?_
    · simp [hcommand, perform, sanitizeRaw]
    · rintro _ ⟨rfl⟩
      rw [hcommand]
      rfl

/-- A hash brings a quote, a backslash and control characters into a name, and both formats show
them. -/
theorem formats_agree_of_quotes_in_hash :
    let hash := "x\"\\\n\x01é".toList
    let arguments := ["image".toList, "--".toList, "docker.io/nginx".toList, hash]
    let name := "docker.io-nginx-x\"\\\n\x01é".toList
    (run (.atHome arguments [] [])).output = name ++ ['\n'] ∧
    ∃ document,
      (run (.atHome ("--format=json".toList :: arguments) [] [])).output = document ++ ['\n'] ∧
      Json.read? document = some (.object [("image_tag".toList, .text "docker.io/nginx".toList),
        ("image_hash".toList, .text hash), ("friendly_name".toList, .text name)]) := by
  intro hash arguments name
  have htable : (Surroundings.atHome arguments [] []).Reach
      ⟨none, none, false, .nameImage "docker.io/nginx".toList hash⟩ .standard :=
    Surroundings.reach_atHome (by decide +kernel) (by simp) (by simp)
  have hjson : (Surroundings.atHome ("--format=json".toList :: arguments) [] []).Reach
      ⟨some .json, none, false, .nameImage "docker.io/nginx".toList hash⟩ .standard :=
    Surroundings.reach_atHome (by decide +kernel) (by simp) (by simp)
  have hname : (imageName "docker.io/nginx".toList hash).text? = some name := by decide +kernel
  obtain ⟨_, -, hline⟩ := ((formats_agree htable).2.1 _ _ rfl).prints name hname
  obtain ⟨document, hread, hdocument⟩ := ((formats_agree hjson).2.1 _ _ rfl).prints name hname
  exact ⟨hline, document, hdocument, hread⟩

end WorkloadNames.Program
