import HandleChallenge.Gateway.Challenge
import HandleChallenge.Proofs.Header.RoundTrip

/-!
# Challenges read back

A client reads a challenge as it reads any header of the scheme. `Challenge.parse?_render` says that
it finds the nonce that was written and the server's signature, if there is one, whatever text the
ids and errors hold.
-/

namespace HandleChallenge.Gateway

open Header (Item IsName Params)

/-- The item of a name and a value. -/
def itemOf (item : String × List Char) : Item := { name := item.1.toList, value := item.2 }

/-- A header is read back as the items that it was written from, if none of them is escaped. -/
theorem parse?_writeHeader {items : List (String × List Char)} (hne : items ≠ [])
    (hnames : ∀ item ∈ items, IsName item.1.toList ∧
      Text.sameIgnoringCase item.1.toList Header.Known.id.key.toList = false) :
    Header.parse? (writeHeader items) =
      some (Params.ofList (items.map fun item => (item.1, String.ofList item.2))) := by
  have hitems : ∀ item ∈ items.map itemOf, IsName item.name := by
    intro item hitem
    obtain ⟨written, hwritten, rfl⟩ := List.mem_map.1 hitem
    exact (hnames written hwritten).1
  have htext : writeHeader items = String.ofList (Header.scheme.toList ++ ' ' ::
      Header.joinItems ((items.map itemOf).map Item.write)) := by
    rw [List.map_map]
    rfl
  have hentries : (items.map itemOf).map Item.entry =
      items.map fun item => (item.1, String.ofList item.2) := by
    rw [List.map_map]
    refine List.map_congr_left fun item hitem => ?_
    simp [Item.entry, itemOf, (hnames item hitem).2]
  rw [htext, Header.parse?_joinItems (by simpa using hne) hitems, hentries]

/-- The names of the items of a challenge. -/
def itemNames : List String := ["sessionId", "nonce", "serverAlg", "serverSignature", "error"]

/-- They are such as the grammar allows, and none of them is `id`. -/
theorem isName_of_mem_itemNames {name : String} (h : name ∈ itemNames) :
    IsName name.toList ∧ Text.sameIgnoringCase name.toList Header.Known.id.key.toList = false := by
  simp only [itemNames, List.mem_cons, List.not_mem_nil, or_false] at h
  rcases h with rfl | rfl | rfl | rfl | rfl
  all_goals exact ⟨⟨by decide, List.all_eq_true.1 (by decide)⟩, by decide⟩

theorem Challenge.name_mem_itemNames {challenge : Challenge} {item : String × List Char}
    (h : item ∈ challenge.items) : item.1 ∈ itemNames := by
  obtain ⟨sessionId, nonce, signature, errors⟩ := challenge
  simp only [items, List.mem_append, List.mem_cons, List.mem_flatMap, Option.mem_toList,
    signatureItems, List.not_mem_nil, or_false] at h
  rcases h with ((rfl | rfl) | ⟨signed, -, rfl | rfl⟩) | herror
  · simp [itemNames]
  · simp [itemNames]
  · simp [itemNames]
  · simp [itemNames]
  · split at herror
    · cases herror
    · rw [List.mem_singleton.1 herror]
      simp [itemNames, errorItem]

@[simp] theorem get?_empty (name : String) : Params.empty.get? name = none := rfl

/-- A challenge is read back as its items. -/
theorem Challenge.parse?_render_eq (challenge : Challenge) :
    Header.parse? challenge.render =
      some (Params.ofList (challenge.items.map fun item => (item.1, String.ofList item.2))) :=
  parse?_writeHeader (by simp [items]) fun _ hitem =>
    isName_of_mem_itemNames (name_mem_itemNames hitem)

/-- What a challenge tells is read back. -/
theorem Challenge.get?_of_parse?_render {challenge : Challenge} {params : Params}
    (h : Header.parse? challenge.render = some params) :
    params.get? "sessionId" = some challenge.sessionId ∧
      params.get? "nonce" = some (Text.Base64.encode challenge.nonce) ∧
      params.get? "serverAlg" = challenge.signature.map ServerSignature.algorithm ∧
      params.get? "serverSignature" =
        (challenge.signature.map fun signature => Text.Base64.encode signature.bytes) ∧
      params.get? "error" =
        if challenge.errors.isEmpty then none
        else some (String.ofList (errorItem challenge.errors).2) := by
  rw [challenge.parse?_render_eq] at h
  cases h
  have hsession : Text.lowercase "sessionId" = "sessionid" := by decide
  have hnonce : Text.lowercase "nonce" = "nonce" := by decide
  have halg : Text.lowercase "serverAlg" = "serveralg" := by decide
  have hsignature : Text.lowercase "serverSignature" = "serversignature" := by decide
  have herror : Text.lowercase "error" = "error" := by decide
  obtain ⟨sessionId, nonce, signature, errors⟩ := challenge
  cases signature
  all_goals cases errors
  all_goals simp [items, signatureItems, errorItem, Params.ofList, Params.insertAll,
    Params.get?_insert, hnonce, halg, hsignature, hsession, herror, Text.Base64.encode]

/-- The nonce and the signature of a challenge are read back. -/
theorem Challenge.parse?_render (challenge : Challenge) :
    ∃ params, Header.parse? challenge.render = some params ∧
      params.get? "nonce" = some (Text.Base64.encode challenge.nonce) ∧
      params.get? "serverAlg" = challenge.signature.map ServerSignature.algorithm ∧
      params.get? "serverSignature" =
        challenge.signature.map fun signature => Text.Base64.encode signature.bytes := by
  obtain ⟨-, hnonce, halgorithm, hsignature, -⟩ := get?_of_parse?_render challenge.parse?_render_eq
  exact ⟨_, challenge.parse?_render_eq, hnonce, halgorithm, hsignature⟩

/-- A header of errors alone has no signature. -/
theorem parse?_renderErrors (errors : List String) :
    ∃ params, Header.parse? (renderErrors errors) = some params ∧
      params.get? "serverSignature" = none := by
  refine ⟨_, parse?_writeHeader (by simp) fun item hitem => ?_, ?_⟩
  · rw [List.mem_singleton.1 hitem]
    exact isName_of_mem_itemNames (by simp [errorItem, itemNames])
  · have hother : Text.lowercase "serverSignature" ≠ Text.lowercase "error" := by decide
    show (Params.empty.insert "error" _).get? "serverSignature" = none
    rw [Params.get?_insert, if_neg hother, get?_empty]

end HandleChallenge.Gateway
