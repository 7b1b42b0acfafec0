import HandleChallenge.Proofs.Gateway.Writing
import HandleChallenge.Proofs.Header.Grammar
import HandleChallenge.Proofs.Text.Percent

/-!
# What a challenge tells

The header of a challenge is written by hand and read by the parser of all headers. A client finds
in it the parameters that were written and no others (`Challenge.ReadAs`), whatever the texts and
bytes in them are: the errors are escaped twice, and the second escape leaves the first one alone.
Main statement: `Challenge.render_tells_exactly`.
-/

namespace HandleChallenge.Gateway

open Header (Params)

/-- The errors are the parameter `error` with its percent escapes undone. -/
def TellsErrors (params : Params) (errors : List String) : Prop :=
  (params.get? "error").map (fun text => Text.Percent.decode text.toList) =
    some (Text.Utf8.encode ("; ".intercalate errors))

/-- The parameters of a challenge, in small letters. -/
def Challenge.paramNames (challenge : Challenge) : List String :=
  ["sessionid", "nonce"] ++
    (if challenge.signature = none then [] else ["serveralg", "serversignature"]) ++
    if challenge.errors = [] then [] else ["error"]

/-- What a client finds in a challenge. -/
structure Challenge.ReadAs (challenge : Challenge) (params : Params) : Prop where
  /-- The parameters of the challenge are there, and no others. -/
  names : ∀ name, params.get? name ≠ none ↔ Text.lowercase name ∈ challenge.paramNames
  sessionId : params.get? "sessionId" = some challenge.sessionId
  nonce : (params.get? "nonce").bind Text.Base64.decode? = some challenge.nonce
  signature : ∀ signature, challenge.signature = some signature →
    params.get? "serverAlg" = some signature.algorithm ∧
      (params.get? "serverSignature").bind Text.Base64.decode? = some signature.bytes
  errors : challenge.errors ≠ [] → TellsErrors params challenge.errors

/-- The names of parameters are those of the entries that they were made of. -/
theorem get?_ofList_ne_none_iff {entries : List (String × String)} {name : String} :
    (Params.ofList entries).get? name ≠ none ↔
      Text.lowercase name ∈ entries.map fun entry => Text.lowercase entry.1 := by
  rw [Params.ofList, Params.get?_insertAll, get?_empty, Option.or_none, Ne,
    Option.map_eq_none_iff, List.getLast?_eq_none_iff, List.filter_eq_nil_iff, List.mem_map]
  simp only [decide_eq_true_iff, not_forall, not_not, exists_prop]

theorem Challenge.map_items (challenge : Challenge) :
    (challenge.items.map fun item => Text.lowercase item.1) = challenge.paramNames := by
  have hwritten : Text.lowercase "sessionId" = "sessionid" ∧ Text.lowercase "nonce" = "nonce" ∧
      Text.lowercase "serverAlg" = "serveralg" ∧
        Text.lowercase "serverSignature" = "serversignature" ∧
          Text.lowercase "error" = "error" := by decide
  obtain ⟨sessionId, nonce, signature, errors⟩ := challenge
  cases signature
  all_goals cases errors
  all_goals simp [items, signatureItems, errorItem, paramNames, hwritten]

theorem decode?_encode (bytes : Bytes) :
    Text.Base64.decode? (Text.Base64.encode bytes) = some bytes := by
  rw [Text.Base64.decode?, Text.Base64.encode, String.toList_ofList,
    Text.Base64.decodeList?_encodeList]

/-- The errors are read back from their item. -/
theorem tellsErrors_of_get? {params : Params} {errors : List String}
    (h : params.get? "error" = some (String.ofList (errorItem errors).2)) :
    TellsErrors params errors := by
  have hpercent : keepsInError '%' = false := by decide
  rw [TellsErrors, h, Option.map_some, String.toList_ofList, errorItem,
    Text.Percent.decode_encodeList hpercent, Text.Utf8.encode, String.toList_intercalate]
  rfl

/-- A challenge is read back whole. -/
theorem Challenge.exists_readAs (challenge : Challenge) :
    ∃ params, Header.parse? challenge.render = some params ∧ challenge.ReadAs params := by
  obtain ⟨hsession, hnonce, halgorithm, hsignature, herrors⟩ :=
    get?_of_parse?_render challenge.parse?_render_eq
  refine ⟨_, challenge.parse?_render_eq, ?_, hsession, ?_, fun signature hsigned => ⟨?_, ?_⟩,
    fun hne => tellsErrors_of_get? ?_⟩
  · intro name
    rw [get?_ofList_ne_none_iff, List.map_map, ← challenge.map_items]
    rfl
  · rw [hnonce, Option.bind_some, decode?_encode]
  · rw [halgorithm, hsigned, Option.map_some]
  · rw [hsignature, hsigned, Option.map_some, Option.bind_some, decode?_encode]
  · rw [herrors, if_neg (by simpa using hne)]

/-- So is a header of errors alone. -/
theorem exists_tellsErrors (errors : List String) :
    ∃ params, Header.parse? (renderErrors errors) = some params ∧
      (∀ name, params.get? name ≠ none ↔ Text.lowercase name = "error") ∧
        TellsErrors params errors := by
  have hlower : Text.lowercase "error" = "error" := by decide
  refine ⟨_, parse?_writeHeader (by simp) fun item hitem => ?_, fun name => ?_, ?_⟩
  · rw [List.mem_singleton.1 hitem]
    exact isName_of_mem_itemNames (by simp [errorItem, itemNames])
  · rw [get?_ofList_ne_none_iff]
    simp [errorItem, hlower]
  · refine tellsErrors_of_get? ?_
    show (Params.empty.insert "error" _).get? "error" = _
    rw [Params.get?_insert, if_pos rfl]

/-- A text of printable ASCII is not dropped from the fields of a message, and is read from them. -/
theorem setText_of_printable {text : String} (h : text.toList.all Text.isPrintable = true)
    (headers : Http.Headers) (name : String) :
    (headers.setText name text).values name = [Text.Utf8.encode text] ∧
      (headers.setText name text).text? name = some text := by
  have hsendable : Http.isSendable text.toList = true :=
    Text.all_of_printable (fun _ => Http.isValueChar_of_isPrintable) h
  have hvalues := Http.Headers.values_setText?_self hsendable headers name
  refine ⟨hvalues, ?_⟩
  show ((headers.setText? name (some text)).values name).head?.bind Http.textOf? = some text
  rw [hvalues, List.head?_cons, Option.bind_some, Text.textOf?_encode h]

/-- A client finds in a challenge what it was made of, and no other parameter; in a header of errors
alone it finds the errors. Both are printable ASCII, the challenge if its session and the name of
its signature's algorithm are, so that neither is dropped from a response, whatever the errors
are. -/
theorem Challenge.render_tells_exactly (challenge : Challenge) (errors : List String) :
    (∃ params, Header.parse? challenge.render = some params ∧ challenge.ReadAs params) ∧
    (∃ params, Header.parse? (renderErrors errors) = some params ∧
      (∀ name, params.get? name ≠ none ↔ Text.lowercase name = "error") ∧
        TellsErrors params errors) ∧
    (challenge.sessionId.toList.all Text.isPrintable = true →
      (∀ signature, challenge.signature = some signature →
        signature.algorithm.toList.all Text.isPrintable = true) →
      challenge.render.toList.all Text.isPrintable = true ∧
      ∀ (headers : Http.Headers) name,
        (headers.setText name challenge.render).values name =
            [Text.Utf8.encode challenge.render] ∧
          (headers.setText name challenge.render).text? name = some challenge.render) ∧
    (renderErrors errors).toList.all Text.isPrintable = true ∧
      ∀ (headers : Http.Headers) name,
        (headers.setText name (renderErrors errors)).values name =
            [Text.Utf8.encode (renderErrors errors)] ∧
          (headers.setText name (renderErrors errors)).text? name = some (renderErrors errors) := by
  have herrors : (renderErrors errors).toList.all Text.isPrintable = true :=
    all_renderErrors (fun _ => id) errors
  refine ⟨challenge.exists_readAs, exists_tellsErrors errors, fun hsession halgorithm => ?_,
    herrors, setText_of_printable herrors⟩
  have hrender : challenge.render.toList.all Text.isPrintable = true :=
    all_render (fun _ => id) hsession halgorithm
  exact ⟨hrender, setText_of_printable hrender⟩

/-- A challenge with a quote in the session, and with errors that hold what has to be escaped. -/
def awkwardChallenge : Challenge where
  sessionId := "a\"b"
  nonce := [0, 255]
  signature := some { algorithm := "Ed25519", bytes := [1] }
  errors := ["100%\n", "\u00e9"]

theorem awkwardChallenge_told :
    (∃ params, Header.parse? awkwardChallenge.render = some params ∧
      params.get? "sessionId" = some "a\"b" ∧
        (params.get? "error").map (fun text => Text.Percent.decode text.toList) =
          some (Text.Utf8.encode "100%\n; \u00e9")) ∧
      (Http.Headers.empty.setText "www-authenticate" awkwardChallenge.render).text?
        "www-authenticate" = some awkwardChallenge.render := by
  obtain ⟨⟨params, hparse, hread⟩, -, hkept, -⟩ := awkwardChallenge.render_tells_exactly []
  have hsession : awkwardChallenge.sessionId.toList.all Text.isPrintable = true := by decide
  have halgorithm : ∀ signature, awkwardChallenge.signature = some signature →
      signature.algorithm.toList.all Text.isPrintable = true := by
    rintro signature ⟨⟩
    decide
  obtain ⟨-, hkept⟩ := hkept hsession halgorithm
  have herrors : "; ".intercalate awkwardChallenge.errors = "100%\n; \u00e9" := by decide
  have htold := hread.errors (by decide)
  rw [TellsErrors, herrors] at htold
  exact ⟨⟨params, hparse, hread.sessionId, htold⟩, (hkept _ _).2⟩

end HandleChallenge.Gateway
