import HandleChallenge.Proofs.Gateway.Writing

/-!
# The session's cookie on its way back

The cookies of a request stand between the semicolons of its headers (`cookieTexts`), each with blanks
around it and an equals sign behind its name (`IsPair`). Which of them is found is stated here apart
from the search: the first one with the name and a value, and none only if there is none
(`findCookie?_eq_some_iff`, `findCookie?_eq_none_iff`). A cookie that the layer has set is such a pair
wherever it comes back (`isPair_of_blanks`), so that its session is found again
(`set_cookie_found_again`).
-/

namespace HandleChallenge

namespace Gateway

/-! ### Cookies of a request -/

/-- The texts between the semicolons of the cookie headers, in order. Headers that are no text have
none. -/
def cookieTexts (headers : Http.Headers) : List (List Char) :=
  ((headers.values "cookie").filterMap Http.textOf?).flatMap fun text => text.toList.splitOn ';'

/-- Without the blanks around it the text is a key, an equals sign and a value. The key has no equals
sign, the value may have some. -/
def IsPair (text key value : List Char) : Prop := '=' ∉ key ∧ Text.trim text = key ++ '=' :: value

/-- The text is no pair with the name and a value. -/
inductive PassedOver (name text : List Char) : Prop
  | noSign (h : '=' ∉ text)
  | otherName {key value : List Char} (h : IsPair text key value) (hkey : key ≠ name)
  | noValue {key : List Char} (h : IsPair text key [])

/-- What a cookie can hold as a value: printable ASCII without semicolons and quotes, and no space at
either end. -/
structure IsCookieValue (value : List Char) : Prop where
  ne_nil : value ≠ []
  printable : ∀ c ∈ value, Text.isPrintable c = true
  semicolon : ';' ∉ value
  quote : '"' ∉ value
  head : value.head? ≠ some ' '
  last : value.getLast? ≠ some ' '

/-! ### How a pair is read -/

/-- A pair is cut at its first equals sign. -/
theorem splitPair?_eq_some_iff {text key value : List Char} :
    splitPair? text = some (key, value) ↔ '=' ∉ key ∧ text = key ++ '=' :: value := by
  rw [← Text.cut_iff]
  unfold splitPair?
  split
  · rename_i hnone
    rw [hnone]
    simp
  · rename_i sign behind hbehind
    obtain rfl : sign = '=' := by
      simpa using Text.head?_dropWhile (congrArg List.head? hbehind)
    rw [hbehind]
    simp

theorem splitPair?_eq_none_iff {text : List Char} : splitPair? text = none ↔ '=' ∉ text := by
  rw [Option.eq_none_iff_forall_ne_some]
  constructor
  · intro h hmem
    obtain ⟨key, value, rfl, hkey⟩ := List.eq_append_cons_of_mem hmem
    exact h (key, value) (splitPair?_eq_some_iff.2 ⟨hkey, rfl⟩)
  · rintro h ⟨key, value⟩ hread
    obtain ⟨-, rfl⟩ := splitPair?_eq_some_iff.1 hread
    exact h (by simp)

/-- A text is one pair only. -/
theorem IsPair.unique {text key value key' value' : List Char} (h : IsPair text key value)
    (h' : IsPair text key' value') : key = key' ∧ value = value' :=
  Text.append_cons_inj h.1 h'.1 (h.2.symm.trans h'.2)

/-- An equals sign is not trimmed. -/
theorem mem_trim_iff {text : List Char} : '=' ∈ Text.trim text ↔ '=' ∈ text := by
  obtain ⟨before, after, hbefore, hafter, htext⟩ := Text.exists_trim_eq text
  have hno {blanks : List Char} (h : Text.AllBlank blanks) : '=' ∉ blanks := fun hmem =>
    absurd (h '=' hmem) (by decide)
  constructor
  · intro h
    rw [htext]
    simp [h]
  · intro h
    rw [htext, List.mem_append, List.mem_append] at h
    exact (h.resolve_right (hno hafter)).resolve_left (hno hbefore)

/-- The text is a pair with the name and a value. -/
def counts (name text : List Char) : Bool :=
  (splitPair? (Text.trim text)).any fun (key, value) => key == name && value != []

theorem counts_of_isPair {name text key value : List Char} (h : IsPair text key value) :
    counts name text = (key == name && value != []) := by
  rw [counts, splitPair?_eq_some_iff.2 h, Option.any_some]

theorem exists_isPair_of_counts {name text : List Char} (h : counts name text = true) :
    ∃ value, IsPair text name value ∧ value ≠ [] := by
  obtain ⟨⟨key, value⟩, hread, hcounts⟩ := (Option.any_eq_true _ _).1 h
  obtain ⟨rfl, hvalue⟩ : key = name ∧ value ≠ [] := by simpa using hcounts
  exact ⟨value, splitPair?_eq_some_iff.1 hread, hvalue⟩

/-- A text is passed over exactly if it is no pair, or one that does not count. -/
theorem passedOver_iff {name text : List Char} :
    PassedOver name text ↔ counts name text = false := by
  constructor
  · rintro (h | ⟨h, hkey⟩ | h)
    · rw [counts, splitPair?_eq_none_iff.2 fun hmem => h (mem_trim_iff.1 hmem)]
      rfl
    · rw [counts_of_isPair h, beq_eq_false_iff_ne.2 hkey, Bool.false_and]
    · rw [counts_of_isPair h, bne_self_eq_false, Bool.and_false]
  · intro h
    cases hread : splitPair? (Text.trim text) with
    | none => exact .noSign fun hmem => splitPair?_eq_none_iff.1 hread (mem_trim_iff.2 hmem)
    | some pair =>
      have hpair : IsPair text pair.1 pair.2 := splitPair?_eq_some_iff.1 hread
      rw [counts_of_isPair hpair, Bool.and_eq_false_iff] at h
      rcases h with hkey | hvalue
      · exact .otherName hpair (beq_eq_false_iff_ne.1 hkey)
      · rw [bne_eq_false_iff_eq.1 hvalue] at hpair
        exact .noValue hpair

instance {name text : List Char} : Decidable (PassedOver name text) :=
  decidable_of_iff _ passedOver_iff.symm

/-! ### Which cookie is found -/

/-- The search goes through the texts of all headers. -/
theorem findCookie?_eq (headers : Http.Headers) (name : String) :
    findCookie? headers name =
      (((cookieTexts headers).find? (counts name.toList)).bind fun text =>
        splitPair? (Text.trim text)).map fun pair => String.ofList (unquote pair.2) := by
  unfold findCookie? cookieTexts cookiePairs counts
  simp only [← List.filterMap_flatMap, List.find?_filterMap]

/-- The value that is found is that of the first pair with the name and a value. -/
theorem findCookie?_eq_some_iff {headers : Http.Headers} {name found : String} :
    findCookie? headers name = some found ↔ ∃ before text after value,
      cookieTexts headers = before ++ text :: after ∧ IsPair text name.toList value ∧ value ≠ [] ∧
      found = String.ofList (unquote value) ∧ ∀ other ∈ before, PassedOver name.toList other := by
  rw [findCookie?_eq]
  constructor
  · intro h
    obtain ⟨pair, hpair, rfl⟩ := Option.map_eq_some_iff.1 h
    obtain ⟨text, hfind, hread⟩ := Option.bind_eq_some_iff.1 hpair
    obtain ⟨hcounts, before, after, htexts, hbefore⟩ := List.find?_eq_some_iff_append.1 hfind
    obtain ⟨value, hvalue, hne⟩ := exists_isPair_of_counts hcounts
    cases hread.symm.trans (splitPair?_eq_some_iff.2 hvalue)
    exact ⟨before, text, after, value, htexts, hvalue, hne, rfl,
      fun other hother => passedOver_iff.2 (by simpa using hbefore other hother)⟩
  · rintro ⟨before, text, after, value, htexts, hpair, hne, rfl, hbefore⟩
    have hcounts : counts name.toList text = true := by
      rw [counts_of_isPair hpair, beq_self_eq_true, Bool.true_and, bne_iff_ne]
      exact hne
    have hfind : (cookieTexts headers).find? (counts name.toList) = some text :=
      List.find?_eq_some_iff_append.2 ⟨hcounts, before, after, htexts, fun other hother => by
        rw [passedOver_iff.1 (hbefore other hother), Bool.not_false]⟩
    rw [hfind, Option.bind_some, splitPair?_eq_some_iff.2 hpair, Option.map_some]

/-- Nothing is found if no pair has the name and a value. -/
theorem findCookie?_eq_none_iff {headers : Http.Headers} {name : String} :
    findCookie? headers name = none ↔
      ∀ text ∈ cookieTexts headers, PassedOver name.toList text := by
  have hnone : findCookie? headers name = none ↔
      (cookieTexts headers).find? (counts name.toList) = none := by
    rw [findCookie?_eq, Option.map_eq_none_iff]
    cases hfind : (cookieTexts headers).find? (counts name.toList) with
    | none => simp
    | some text =>
      obtain ⟨value, hpair, -⟩ := exists_isPair_of_counts (List.find?_some hfind)
      rw [Option.bind_some, splitPair?_eq_some_iff.2 hpair]
      simp
  simp only [hnone, List.find?_eq_none, Bool.not_eq_true, passedOver_iff]

/-! ### The session's cookie -/

/-- A value without quotes is itself. -/
theorem unquote_eq_self {value : List Char} (h : '"' ∉ value) : unquote value = value := by
  have hno : ∀ c ∈ value, (c == '"') = false := fun c hc =>
    beq_eq_false_iff_ne.2 fun heq => h (heq ▸ hc)
  rw [unquote, Text.dropWhile_eq_self fun c hc => hno c (List.mem_of_head? hc),
    Text.dropWhile_eq_self fun c hc => hno c (List.mem_reverse.1 (List.mem_of_head? hc)),
    List.reverse_reverse]

/-- In front of its attributes the cookie is the name and the id. -/
theorem takeWhile_setCookie {session : SessionId} {cookieName : String}
    (hname : ';' ∉ cookieName.toList) (hid : ';' ∉ session.id.toList) (secure : Bool) :
    (session.setCookie cookieName secure).toList.takeWhile (· != ';') =
      cookieName.toList ++ '=' :: session.id.toList := by
  have hpair : ';' ∉ cookieName.toList ++ '=' :: session.id.toList := by
    simp [hname, hid]
  obtain ⟨attributes, hattributes⟩ : ∃ attributes, (session.setCookie cookieName secure).toList =
      (cookieName.toList ++ '=' :: session.id.toList) ++ ';' :: attributes :=
    ⟨" Path=/; HttpOnly; SameSite=Lax".toList ++ (if secure then "; Secure" else "").toList, by
      simp [SessionId.setCookie]⟩
  exact (Text.cut_iff.2 ⟨hpair, hattributes⟩).1

/-- Between blanks the name and the id are a pair. -/
theorem isPair_of_blanks {name value before after : List Char} (hne : name ≠ [])
    (hname : ∀ c ∈ name, GatewaySettings.isTokenChar c = true) (hvalue : IsCookieValue value)
    (hbefore : Text.AllBlank before) (hafter : Text.AllBlank after) :
    IsPair (before ++ (name ++ '=' :: value) ++ after) name value := by
  have hsign : '=' ∉ name := fun hmem => absurd (hname '=' hmem) (by decide)
  refine ⟨hsign, Text.trim_append_blanks hbefore hafter (by simp) (fun c hc => ?_) fun c hc => ?_⟩
  · rw [List.head?_append_of_ne_nil _ hne] at hc
    have htoken := hname c (List.mem_of_head? hc)
    refine Text.isBlank_of_isPrintable (isPrintable_of_isTokenChar htoken) ?_
    rintro rfl
    exact absurd htoken (by decide)
  · rw [List.getLast?_append_cons, List.getLast?_cons_of_ne_nil hvalue.ne_nil] at hc
    refine Text.isBlank_of_isPrintable (hvalue.printable c (List.mem_of_getLast? hc)) ?_
    rintro rfl
    exact hvalue.last hc

/-- The cookie that was set is found again: if the pair of the name and the id comes back between
blanks, and every pair in front of it has another name or no value, this id is the session's. An id
is new only if no pair has the name and a value. An id that is not new is the value, without quotes
around it, of the first pair with the name, and this pair has no other name. -/
theorem set_cookie_found_again {settings : GatewaySettings} (hvalid : settings.validate = .ok ())
    (entropy : Entropy) (headers : Http.Headers) :
    (∀ (session : SessionId) (secure : Bool) (front back : List Char)
        (before after : List (List Char)), IsCookieValue session.id.toList →
      Text.AllBlank front → Text.AllBlank back →
      cookieTexts headers = before ++ (front ++
        (session.setCookie settings.cookieName secure).toList.takeWhile (· != ';') ++ back) ::
          after →
      (∀ other ∈ before, PassedOver settings.cookieName.toList other) →
      SessionId.ofHeaders entropy headers settings.cookieName = ⟨session.id, false⟩) ∧
    ((∀ text ∈ cookieTexts headers, PassedOver settings.cookieName.toList text) →
      SessionId.ofHeaders entropy headers settings.cookieName = SessionId.mint entropy) ∧
    ∀ session, SessionId.ofHeaders entropy headers settings.cookieName = session →
      session.isNew = false → ∃ before text after value,
        cookieTexts headers = before ++ text :: after ∧
        IsPair text settings.cookieName.toList value ∧ value ≠ [] ∧
        (∀ key other, IsPair text key other → key = settings.cookieName.toList) ∧
        session.id = String.ofList (unquote value) ∧
        ∀ other ∈ before, PassedOver settings.cookieName.toList other := by
  obtain ⟨hne, hname⟩ := isTokenChar_cookieName hvalid
  have hname_ne : settings.cookieName.toList ≠ [] := fun hnil => hne (String.toList_eq_nil_iff.1 hnil)
  have hsemicolon : ';' ∉ settings.cookieName.toList := fun hmem =>
    absurd (hname ';' hmem) (by decide)
  refine ⟨fun session secure front back before after hid hfront hback htexts hbefore => ?_,
    fun hnone => ?_, ?_⟩
  · rw [takeWhile_setCookie hsemicolon hid.semicolon] at htexts
    have hfound : findCookie? headers settings.cookieName = some session.id :=
      findCookie?_eq_some_iff.2 ⟨before, _, after, session.id.toList, htexts,
        isPair_of_blanks hname_ne hname hid hfront hback, hid.ne_nil,
        by rw [unquote_eq_self hid.quote, String.ofList_toList], hbefore⟩
    rw [SessionId.ofHeaders, hfound]
  · rw [SessionId.ofHeaders, findCookie?_eq_none_iff.2 hnone]
  · rintro session rfl hnew
    unfold SessionId.ofHeaders at hnew ⊢
    cases hfound : findCookie? headers settings.cookieName with
    | none =>
      rw [hfound] at hnew
      cases hnew
    | some id =>
      obtain ⟨before, text, after, value, htexts, hpair, hvalue, hid, hbefore⟩ :=
        findCookie?_eq_some_iff.1 hfound
      exact ⟨before, text, after, value, htexts, hpair, hvalue,
        fun key other hother => (hother.unique hpair).1, hid, hbefore⟩

/-- The id of a session, with an equals sign and a space. -/
def spacedSession : SessionId := ⟨"a=b c", true⟩

/-- Headers of which one is no text, and in the others cookies whose names contain or extend that of
the session, or that have no value. -/
def manyCookies : Http.Headers :=
  .ofList [("Cookie", [0x80]),
    ("cookie", Text.Utf8.encode "HDLSESSIONIDS=1;HDLSESSIONID=; XHDLSESSIONID=2; HDLSESSIONID"),
    ("COOKIE", Text.Utf8.encode "theme=dark;\t HDLSESSIONID=a=b c ;HDLSESSIONID=other")]

/-- Among them the session is found. -/
theorem spacedSession_found_again :
    GatewaySettings.default.validate = .ok () ∧ IsCookieValue spacedSession.id.toList ∧
      SessionId.ofHeaders (.ofStreams fun _ _ => 0) manyCookies
        GatewaySettings.default.cookieName = ⟨spacedSession.id, false⟩ := by
  have hvalid : GatewaySettings.default.validate = .ok () := by decide +kernel
  have hvalue : IsCookieValue spacedSession.id.toList :=
    { ne_nil := by decide
      printable := List.all_eq_true.1 (by decide)
      semicolon := by decide
      quote := by decide
      head := by decide
      last := by decide }
  have htexts : cookieTexts manyCookies =
      ["HDLSESSIONIDS=1", "HDLSESSIONID=", " XHDLSESSIONID=2", " HDLSESSIONID", "theme=dark"].map
        String.toList ++
      (['\t', ' '] ++ (spacedSession.setCookie GatewaySettings.default.cookieName true).toList.takeWhile
        (· != ';') ++ [' ']) :: ["HDLSESSIONID=other".toList] := by
    decide +kernel
  refine ⟨hvalid, hvalue, ?_⟩
  exact (set_cookie_found_again hvalid (.ofStreams fun _ _ => 0) manyCookies).1 spacedSession true
    ['\t', ' '] [' '] _ _ hvalue (by simp [Text.AllBlank]; decide) (by simp [Text.AllBlank]; decide)
    htexts (by decide +kernel)

end Gateway

end HandleChallenge
