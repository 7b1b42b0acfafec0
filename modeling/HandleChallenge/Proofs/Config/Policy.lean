import HandleChallenge.Config.Gateway
import HandleChallenge.Proofs.Config.Duration
import HandleChallenge.Proofs.Json.RoundTrip

/-!
# Settings that are read back

Settings are written as a document (`Policy.document`), and the document is read back as the
settings if sixty-four bits hold their numbers and their durations (`Policy.parse?_print`). All
settings that are read from a text are such (`Policy.inRange_of_parse?`), whether they stand there
or come from a default, so that writing and reading them again changes nothing.
-/

namespace HandleChallenge

namespace Json

/-- What is true of the default and of all that is read is true of a member with a default. -/
theorem of_withDefault? {α : Type} {p : α → Prop} {members : List (String × Json)}
    {name : String} {read? : Json → Option α} {default value : α}
    (h : withDefault? members name read? default = some value) (hdefault : p default)
    (hread : ∀ json value, read? json = some value → p value) : p value := by
  unfold withDefault? at h
  split at h
  · rwa [← Option.some.inj h]
  · exact hread _ _ h
  · cases h

theorem lt_of_naturalBelow? {bound : Nat} (json : Json) (n : Nat)
    (h : json.naturalBelow? bound = some n) : n < bound := by
  unfold naturalBelow? at h
  split at h
  · split at h
    · rename_i hlt
      rwa [← Option.some.inj h]
    · cases h
  · cases h

end Json

open Json (Spells of_withDefault? lt_of_naturalBelow?)

namespace Policy

variable {policy : Policy} {json : Json} {text : String}

/-- Sixty-four bits hold the numbers and the durations. -/
structure InRange (policy : Policy) : Prop where
  nonceLength : policy.nonceLength < UInt64.size
  verificationTimeout : policy.verificationTimeout.InRange
  sessionMaxAge : policy.sessionMaxAge.InRange
  maxSessions : policy.maxSessions < UInt64.size

theorem inRange_default : default.InRange where
  nonceLength := by decide
  verificationTimeout := .inl (by decide)
  sessionMaxAge := .inl (by decide)
  maxSessions := by decide

theorem inRange_of_duration? (json : Json) (duration : Duration)
    (h : duration? json = some duration) : duration.InRange := by
  obtain ⟨text, -, hread⟩ := Option.bind_eq_some_iff.1 h
  cases hparse : Duration.parse text with
  | ok read =>
    rw [hparse] at hread
    cases hread
    exact Duration.inRange_of_parse hparse
  | error error =>
    rw [hparse] at hread
    cases hread

/-- Settings are in range, whether they are read or come from a default. -/
theorem inRange_of_ofJson? (h : ofJson? json = some policy) : policy.InRange := by
  unfold ofJson? at h
  simp only [Option.bind_eq_bind, Option.bind_eq_some_iff, Option.pure_def,
    Option.some.injEq] at h
  -- the numbers and the durations are what a setting can be out of range by
  obtain ⟨members, -, nonceLength, hnonce, timeout, htimeout, -, -, -, -, maxAge, hage,
    maxSessions, hsessions, -, -, -, -, rfl⟩ := h
  exact {
    nonceLength :=
      of_withDefault? (p := (· < _)) hnonce inRange_default.nonceLength lt_of_naturalBelow?
    verificationTimeout :=
      of_withDefault? htimeout inRange_default.verificationTimeout inRange_of_duration?
    sessionMaxAge := of_withDefault? hage inRange_default.sessionMaxAge inRange_of_duration?
    maxSessions :=
      of_withDefault? (p := (· < _)) hsessions inRange_default.maxSessions lt_of_naturalBelow?
  }

/-- The document that settings are written as. -/
def document (policy : Policy) : List (String × Json) :=
  [("nonce_length", .natural policy.nonceLength),
    ("verification_timeout", .string policy.verificationTimeout.text),
    ("allow_basic", .bool policy.allowBasic),
    ("require_certified_resolution", .bool policy.requireCertified),
    ("session_max_age", .string policy.sessionMaxAge.text),
    ("max_sessions", .natural policy.maxSessions),
    ("max_pbkdf2_iterations", .natural policy.maxIterations.toNat),
    ("server_signing", .bool policy.serverSigning)]

theorem spells_print (policy : Policy) : Spells policy.print (.ofMembers policy.document) := by
  refine Json.spells_writeObject ?_
  simp [Json.SpellsMembers, document, Json.spells_writeNatural, Json.spells_writeString,
    Json.spells_writeBool]

theorem duration?_text {duration : Duration} (h : duration.InRange) :
    duration? (.string duration.text) = some duration := by
  show (Duration.parse duration.text).toOption = some duration
  rw [Duration.parse_text_eq_ok_iff.2 h]
  rfl

theorem ofJson?_document (h : policy.InRange) :
    ofJson? (.ofMembers policy.document) = some policy := by
  unfold ofJson?
  rw [Json.record?_ofMembers]
  have hiterations := policy.maxIterations.toNat_lt_size
  simp [document, Json.withDefault?, Json.named, size?, Json.naturalBelow?, Json.bool?,
    h.nonceLength, h.maxSessions, hiterations, duration?_text h.verificationTimeout,
    duration?_text h.sessionMaxAge]

/-- An array is read as the object with its items under the first names. -/
theorem ofJson?_array {items : List Json} (h : items.length ≤ names.length) :
    ofJson? (.array items) = ofJson? (.ofMembers (names.zip items)) := by
  unfold ofJson?
  rw [Json.record?_array h]

/-- The settings without their names are read too, since they are written in the order of these. -/
theorem ofJson?_array_document (h : policy.InRange) :
    ofJson? (.array (policy.document.map Prod.snd)) = some policy := by
  have hzip : policy.document = names.zip (policy.document.map Prod.snd) :=
    List.zip_of_prod rfl rfl
  rw [ofJson?_array (by simp [document, names]), ← hzip]
  exact ofJson?_document h

/-- Settings in range are read back as they were written. -/
theorem parse?_print (h : policy.InRange) :
    parse? (String.ofList policy.print) = some policy := by
  rw [parse?, Json.parse?_of_spells policy.spells_print]
  exact ofJson?_document h

theorem inRange_of_parse? (h : parse? text = some policy) : policy.InRange := by
  obtain ⟨json, -, hread⟩ := Option.bind_eq_some_iff.1 h
  exact inRange_of_ofJson? hread

end Policy

namespace GatewaySettings

variable {settings : GatewaySettings} {text : String}

/-- The document that settings are written as. -/
def document (settings : GatewaySettings) : List (String × Json) :=
  [("session_cookie", .string settings.cookieName),
    ("require_secure_transport", .bool settings.requireSecure),
    ("trust_forwarded_proto", .bool settings.trustForwarded),
    ("auth", .ofMembers settings.policy.document)]

theorem spells_print (settings : GatewaySettings) :
    Spells settings.print (.ofMembers settings.document) := by
  refine Json.spells_writeObject ?_
  simp [Json.SpellsMembers, document, Json.spells_writeString, Json.spells_writeBool,
    Policy.spells_print]

theorem ofJson?_document (h : settings.policy.InRange) :
    ofJson? (.ofMembers settings.document) = some settings := by
  unfold ofJson?
  rw [Json.record?_ofMembers]
  simp [document, Json.withDefault?, Json.named, Json.string?, Json.bool?,
    Policy.ofJson?_document h]

/-- An array is read as the object with its items under the first names. -/
theorem ofJson?_array {items : List Json} (h : items.length ≤ names.length) :
    ofJson? (.array items) = ofJson? (.ofMembers (names.zip items)) := by
  unfold ofJson?
  rw [Json.record?_array h]

/-- The settings without their names are read too, since they are written in the order of these. -/
theorem ofJson?_array_document (h : settings.policy.InRange) :
    ofJson? (.array (settings.document.map Prod.snd)) = some settings := by
  have hzip : settings.document = names.zip (settings.document.map Prod.snd) :=
    List.zip_of_prod rfl rfl
  rw [ofJson?_array (by simp [document, names]), ← hzip]
  exact ofJson?_document h

example : parse? "[\"SID\", true, false, [12, \"1500ms\"]]" =
    some { cookieName := "SID"
           requireSecure := true
           trustForwarded := false
           policy :=
             { Policy.default with nonceLength := 12, verificationTimeout := ⟨1500⟩ } } := by
  decide +kernel

/-- Settings are read back as they were written, whatever the name of the cookie. -/
theorem parse?_print (h : settings.policy.InRange) :
    parse? (String.ofList settings.print) = some settings := by
  rw [parse?, Json.parse?_of_spells settings.spells_print]
  exact ofJson?_document h

theorem inRange_of_parse? (h : parse? text = some settings) : settings.policy.InRange := by
  obtain ⟨json, -, hread⟩ := Option.bind_eq_some_iff.1 h
  unfold ofJson? at hread
  simp only [Option.bind_eq_bind, Option.bind_eq_some_iff, Option.pure_def,
    Option.some.injEq] at hread
  obtain ⟨members, -, -, -, -, -, -, -, policy, hpolicy, rfl⟩ := hread
  exact of_withDefault? hpolicy Policy.inRange_default fun _ _ => Policy.inRange_of_ofJson?

end GatewaySettings

/-! ### What is kept -/

/-- Settings survive being written and read again. A duration that is read from a text is read from
its own text again; those are exactly the durations of at most so many milliseconds, or whole
seconds, as sixty-four bits hold. So the settings that are read from a text are read again from what
they are written as, with their durations and with what is wrong with them. Where minutes and hours
do not overflow, a text is read exactly if it writes a number of sixty-four bits with a unit or
alone, and what ends in `ms` is read as milliseconds or refused for them. -/
theorem settings_survive_writing :
    (∀ text duration, Duration.parse text = .ok duration →
      Duration.parse duration.text = .ok duration) ∧
    (∀ duration, Duration.parse duration.text = .ok duration ↔
      duration.millis < UInt64.size ∨
        duration.millis % 1000 = 0 ∧ duration.millis / 1000 < UInt64.size) ∧
    (∀ text policy, Policy.parse? text = some policy →
      Policy.parse? (String.ofList policy.print) = some policy) ∧
    (∀ text settings, GatewaySettings.parse? text = some settings →
      GatewaySettings.parse? (String.ofList settings.print) = some settings) ∧
    (∀ text, ¬ Duration.Overflows text.toList → ∀ duration, Duration.parse text = .ok duration ↔
      ∃ n unit, Duration.Writes text.toList n unit ∧ n < UInt64.size ∧
        duration = ⟨n * unit.millis⟩) ∧
    (∀ text body after, Text.AllBlank after →
      text.toList = body ++ TimeUnit.milliseconds.suffix ++ after →
      (∀ duration, Duration.parse text = .ok duration ↔
        Text.Decimal.Writes (Text.trim body) duration.millis ∧ duration.millis < UInt64.size) ∧
      ∀ error, Duration.parse text = .error error → error = .milliseconds) := by
  refine ⟨?durations, ?range, ?policies, ?gateways, ?accepted, ?milliseconds⟩
  case durations =>
    intro text duration h
    exact Duration.parse_text_eq_ok_iff.2 (Duration.inRange_of_parse h)
  case range => exact fun duration => Duration.parse_text_eq_ok_iff
  case policies => exact fun text policy h => Policy.parse?_print (Policy.inRange_of_parse? h)
  case gateways =>
    exact fun text settings h =>
      GatewaySettings.parse?_print (GatewaySettings.inRange_of_parse? h)
  case accepted => exact fun text h duration => Duration.parse_eq_ok_iff_of_not_overflows h
  case milliseconds =>
    exact fun text body after hafter htext => Duration.parse_of_milliseconds hafter htext

/-- Settings with a timeout of a second and a half. -/
def patientPolicy : Policy := { Policy.default with verificationTimeout := ⟨1500⟩ }

/-- The longest milliseconds, half an hour behind a sign, a policy with one setting and a gateway
with that policy. -/
theorem patientPolicy_survives :
    Duration.parse "18446744073709551615 ms\n" = .ok ⟨18446744073709551615⟩ ∧
    Duration.parse (Duration.text ⟨18446744073709551615⟩) = .ok ⟨18446744073709551615⟩ ∧
    (∃ n unit, Duration.Writes " +30 m".toList n unit ∧ n < UInt64.size ∧
      (⟨1800000⟩ : Duration) = ⟨n * unit.millis⟩) ∧
    Text.Decimal.Writes (Text.trim "250".toList) 250 ∧
    Policy.parse? "\x7b\"verification_timeout\": \"1500ms\"\x7d" = some patientPolicy ∧
    Policy.parse? (String.ofList patientPolicy.print) = some patientPolicy ∧
    GatewaySettings.parse? (String.ofList (GatewaySettings.print
      { GatewaySettings.default with policy := patientPolicy })) =
        some { GatewaySettings.default with policy := patientPolicy } := by
  obtain ⟨hdurations, -, hpolicies, hgateways, haccepted, hmilliseconds⟩ :=
    settings_survive_writing
  have hlongest : Duration.parse "18446744073709551615 ms\n" = .ok ⟨18446744073709551615⟩ := by
    decide +kernel
  have hsigned : Duration.parse " +30 m" = .ok ⟨1800000⟩ := by decide +kernel
  have hshort : Duration.parse "250ms" = .ok ⟨250⟩ := by decide +kernel
  have hpolicy : Policy.parse? "\x7b\"verification_timeout\": \"1500ms\"\x7d" =
      some patientPolicy := by decide +kernel
  have hgateway : GatewaySettings.parse?
      "\x7b\"auth\": \x7b\"verification_timeout\": \"1500ms\"\x7d\x7d" =
        some { GatewaySettings.default with policy := patientPolicy } := by decide +kernel
  exact ⟨hlongest, hdurations _ _ hlongest,
    (haccepted _ (Duration.not_overflows_of_parse hsigned) _).1 hsigned,
    (((hmilliseconds "250ms" "250".toList [] (by simp [Text.AllBlank]) rfl).1 _).1 hshort).1,
    hpolicy, hpolicies _ _ hpolicy, hgateways _ _ hgateway⟩

end HandleChallenge
