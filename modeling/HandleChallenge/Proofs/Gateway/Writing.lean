import HandleChallenge.Config.Gateway
import HandleChallenge.Gateway.SessionCookie
import HandleChallenge.Proofs.Gateway.Challenge
import HandleChallenge.Proofs.Text.Printable

/-!
# What the layer can send

A text with a control character is no value of a field, and the layer drops it. A challenge adds
only printable ASCII to its session and to the name of the signer's algorithm, so that it is within
every class of characters that has both and all of printable ASCII (`Challenge.all_render`); it can
be sent if they can (`Challenge.isSendable_render`). A cookie can be sent if its name can
(`SessionId.isSendable_setCookie`), as every valid name can (`isSendable_cookieName`).
-/

namespace HandleChallenge

namespace Http

open Text.Utf8 (Agrees)

/-- Whether a character may stand in a value: every one but a control, of which the tab may. -/
def isValueChar (c : Char) : Bool := c == '\t' || (0x20 ≤ c.toNat && c.toNat != 0x7F)

/-- Whether characters may be a value. -/
def isSendable (cs : List Char) : Bool := cs.all isValueChar

theorem agrees_isValueChar : Agrees isValueByte isValueChar := by
  intro c byte hbyte
  unfold isValueByte isValueChar
  by_cases h : c.toNat < 0x80
  · rw [Text.Utf8.encodeChar_of_lt h, List.mem_singleton] at hbyte
    subst hbyte
    have hall : ∀ n : Fin 0x80, (UInt8.ofNat n == 0x09 ||
        (0x20 ≤ UInt8.ofNat n && UInt8.ofNat n != 0x7F)) =
          (n.val == 9 || (0x20 ≤ n.val && n.val != 0x7F)) := by decide
    have htab : (c == '\t') = (c.toNat == 9) := by
      rw [Bool.eq_iff_iff, beq_iff_eq, beq_iff_eq, ← Char.toNat_inj]
      rfl
    rw [htab]
    exact hall ⟨c.toNat, h⟩
  · have hbyte' := Text.Utf8.le_of_mem_encodeChar (Nat.le_of_not_lt h) hbyte
    have hlow : (0x20 : UInt8) ≤ byte := UInt8.le_iff_toNat_le.2 (Nat.le_trans (by decide) hbyte')
    have hne : (byte != 0x7F) = true := by
      rw [bne_iff_ne]
      rintro rfl
      exact absurd hbyte' (by decide)
    have hlow' : 0x20 ≤ c.toNat := by omega
    have hne' : (c.toNat != 0x7F) = true := by
      rw [bne_iff_ne]
      omega
    rw [decide_eq_true hlow, hne, decide_eq_true hlow', hne', Bool.and_self, Bool.or_true,
      Bool.or_true]

/-- A text is a value if its characters may stand in one. -/
theorem valueOf?_eq (text : String) :
    valueOf? text = if isSendable text.toList then some (Text.Utf8.encode text) else none := by
  have hall : (Text.Utf8.encode text).all isValueByte = isSendable text.toList :=
    Text.Utf8.all_encodeList agrees_isValueChar text.toList
  simp only [valueOf?, hall]

/-- A text that can be sent is the one value of its name. -/
theorem Headers.values_setText?_self {text : String} (h : isSendable text.toList = true)
    (headers : Headers) (name : String) :
    (headers.setText? name (some text)).values name = [Text.Utf8.encode text] := by
  show (headers.setText name text).values name = _
  unfold setText
  rw [valueOf?_eq, if_pos h]
  exact (values_set headers name name _).trans (if_pos rfl)

/-! ### Characters that are written -/

/-- Printable ASCII can be sent. -/
theorem isValueChar_of_isPrintable {c : Char} (h : Text.isPrintable c = true) :
    isValueChar c = true := by
  obtain ⟨hlow, hhigh⟩ := Text.isPrintable_iff.1 h
  have hne : c.toNat ≠ 0x7F := Nat.ne_of_lt hhigh
  simp [isValueChar, hlow, hne]

@[simp] theorem isSendable_cons (c : Char) (cs : List Char) :
    isSendable (c :: cs) = (isValueChar c && isSendable cs) := rfl

@[simp] theorem isSendable_append (cs more : List Char) :
    isSendable (cs ++ more) = (isSendable cs && isSendable more) :=
  List.all_append

theorem isSendable_iff {cs : List Char} :
    isSendable cs = true ↔ ∀ c ∈ cs, isValueChar c = true :=
  List.all_eq_true

/-- Minted ids can be sent. -/
theorem isSendable_uuid (bytes : Bytes) :
    isSendable (Text.Uuid.ofRandom bytes).toList = true := by
  have hdigit : ∀ n : Fin 16, isValueChar (Text.Hex.lowerDigit n) = true := by decide
  have hgroup : ∀ (bytes : Bytes) (start length : Nat),
      isSendable (Text.Uuid.group bytes start length) = true := by
    intro bytes start length
    refine isSendable_iff.2 fun c hc => ?_
    obtain ⟨byte, -, hbyte⟩ := List.mem_flatMap.1 hc
    have hlt := byte.toNat_lt
    simp only [Text.Hex.printByte, List.mem_cons, List.not_mem_nil, or_false] at hbyte
    rcases hbyte with rfl | rfl
    · exact hdigit ⟨byte.toNat / 16, by omega⟩
    · exact hdigit ⟨byte.toNat % 16, Nat.mod_lt _ (by decide)⟩
  have hdash : isValueChar '-' = true := rfl
  rw [Text.Uuid.ofRandom, String.toList_ofList]
  simp only [Text.Uuid.write, isSendable_append, isSendable_cons, hgroup, hdash, Bool.and_self]

end Http

namespace Gateway

open Http (isSendable)

/-! ### Challenges -/

section

variable {allowed : Char → Bool}

/-- Items between commas are of allowed characters if each of them is. -/
theorem all_joinItems (hcomma : allowed ',' = true) (hblank : allowed ' ' = true)
    {items : List (List Char)} (h : ∀ item ∈ items, item.all allowed = true) :
    (Header.joinItems items).all allowed = true := by
  induction items with
  | nil => rfl
  | cons item items ih =>
    obtain ⟨hitem, hitems⟩ := List.forall_mem_cons.1 h
    cases items with
    | nil => exact hitem
    | cons next items =>
      rw [Header.joinItems, List.all_append, List.all_cons, List.all_cons, hitem, hcomma, hblank,
        ih hitems]
      · rfl
      · simp

variable (hallowed : ∀ c, Text.isPrintable c = true → allowed c = true)

include hallowed

/-- A header of the scheme is of allowed characters if its names and values are. -/
theorem all_writeHeader {items : List (String × List Char)}
    (h : ∀ item ∈ items, item.1.toList.all allowed = true ∧ item.2.all allowed = true) :
    (writeHeader items).toList.all allowed = true := by
  have hscheme : (Header.scheme.toList ++ [' ']).all allowed = true :=
    Text.all_of_printable hallowed (by decide)
  rw [writeHeader, String.toList_ofList, List.append_cons, List.all_append, hscheme, Bool.true_and]
  refine all_joinItems (hallowed _ rfl) (hallowed _ rfl) fun text htext => ?_
  obtain ⟨⟨name, value⟩, hmem, rfl⟩ := List.mem_map.1 htext
  obtain ⟨hname, hvalue⟩ := h _ hmem
  show (Header.writeItem name.toList value).all allowed = true
  rw [Header.writeItem, List.all_append, List.all_cons,
    Text.all_quoted (hallowed _ rfl) (hallowed _ rfl), hname, hvalue, hallowed _ rfl]
  rfl

/-- The names of the items of a challenge are. -/
theorem all_of_mem_itemNames {name : String} (h : name ∈ itemNames) :
    name.toList.all allowed = true :=
  Text.all_of_printable hallowed
    ((by decide : ∀ name ∈ itemNames, name.toList.all Text.isPrintable = true) name h)

/-- Errors are, whatever they hold. -/
theorem all_errorItem (errors : List String) : (errorItem errors).2.all allowed = true := by
  refine Text.all_percent hallowed (fun c hc => hallowed c (Text.isPrintable_iff.2 ?_)) _
  simp only [keepsInError, Bool.and_eq_true, decide_eq_true_iff] at hc
  exact hc.1.1.1

theorem all_renderErrors (errors : List String) :
    (renderErrors errors).toList.all allowed = true := by
  refine all_writeHeader hallowed fun item hitem => ?_
  rw [List.mem_singleton.1 hitem]
  exact ⟨all_of_mem_itemNames hallowed (by simp [errorItem, itemNames]),
    all_errorItem hallowed errors⟩

/-- A challenge is of allowed characters if its session and the name of its signature's algorithm
are. -/
theorem Challenge.all_render {challenge : Challenge}
    (hsession : challenge.sessionId.toList.all allowed = true)
    (halgorithm : ∀ signature, challenge.signature = some signature →
      signature.algorithm.toList.all allowed = true) :
    challenge.render.toList.all allowed = true := by
  refine all_writeHeader hallowed fun item hitem =>
    ⟨all_of_mem_itemNames hallowed (name_mem_itemNames hitem), ?_⟩
  simp only [items, List.mem_append, List.mem_cons, List.mem_flatMap, Option.mem_toList,
    signatureItems, List.not_mem_nil, or_false] at hitem
  rcases hitem with ((rfl | rfl) | ⟨signature, hsome, rfl | rfl⟩) | herror
  · exact hsession
  · exact Text.all_base64 hallowed _
  · exact halgorithm signature hsome
  · exact Text.all_base64 hallowed _
  · split at herror
    · cases herror
    · rw [List.mem_singleton.1 herror]
      exact all_errorItem hallowed _

end

/-- A challenge can be sent if its session and the name of its signature's algorithm can. -/
theorem Challenge.isSendable_render {challenge : Challenge}
    (hsession : isSendable challenge.sessionId.toList = true)
    (halgorithm : ∀ signature, challenge.signature = some signature →
      isSendable signature.algorithm.toList = true) :
    isSendable challenge.render.toList = true :=
  all_render (fun _ => Http.isValueChar_of_isPrintable) hsession halgorithm

/-! ### Cookies -/

theorem SessionId.isSendable_mint (entropy : Entropy) :
    isSendable (mint entropy).id.toList = true :=
  Http.isSendable_uuid _

/-- The cookie of a session can be sent if its name and the id can. -/
theorem SessionId.isSendable_setCookie {session : SessionId} {cookieName : String}
    (hname : isSendable cookieName.toList = true) (hid : isSendable session.id.toList = true)
    (secure : Bool) : isSendable (session.setCookie cookieName secure).toList = true := by
  have hattributes : isSendable "; Path=/; HttpOnly; SameSite=Lax".toList = true := by decide
  have hsecure : isSendable (if secure then "; Secure" else "").toList = true := by
    cases secure
    · rfl
    · decide
  have hsign : isSendable "=".toList = true := by decide
  simp only [setCookie, String.toList_append, Http.isSendable_append, hname, hid, hattributes,
    hsecure, hsign, Bool.and_self]

/-- A token is printable ASCII. -/
theorem isPrintable_of_isTokenChar {c : Char} (h : GatewaySettings.isTokenChar c = true) :
    Text.isPrintable c = true := by
  rw [GatewaySettings.isTokenChar, Bool.or_eq_true] at h
  rcases h with hletter | hmark
  · have hrange : 0x30 ≤ c.toNat ∧ c.toNat ≤ 0x7A := by
      delta Char.isAlphanum Char.isAlpha Char.isUpper Char.isLower Char.isDigit at hletter
      simp only [Bool.or_eq_true, Bool.and_eq_true, decide_eq_true_iff, ge_iff_le,
        UInt32.le_iff_toNat_le, Char.reduceVal, UInt32.reduceToNat] at hletter
      have hval : c.toNat = c.val.toNat := rfl
      omega
    exact Text.isPrintable_iff.2 (by omega)
  · exact List.all_eq_true.1
      (by decide : "!#$%&'*+-.^_\x60|~".toList.all Text.isPrintable = true) c
      (List.contains_iff_mem.1 hmark)

/-- The name of the cookie is a token in settings that are valid. -/
theorem isTokenChar_cookieName {settings : GatewaySettings} (h : settings.validate = .ok ()) :
    settings.cookieName ≠ "" ∧
      ∀ c ∈ settings.cookieName.toList, GatewaySettings.isTokenChar c = true := by
  unfold GatewaySettings.validate at h
  split at h
  · cases h
  · rename_i hne
    split at h
    · cases h
    · rename_i htokens
      exact ⟨hne, List.all_eq_true.1 (by simpa only [Bool.not_eq_false] using htokens)⟩

/-- So it can be sent. -/
theorem isSendable_cookieName {settings : GatewaySettings} (h : settings.validate = .ok ()) :
    isSendable settings.cookieName.toList = true :=
  Http.isSendable_iff.2 fun c hc => Http.isValueChar_of_isPrintable
    (isPrintable_of_isTokenChar ((isTokenChar_cookieName h).2 c hc))

end Gateway

end HandleChallenge
