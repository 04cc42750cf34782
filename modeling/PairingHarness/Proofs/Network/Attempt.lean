/-
Every failure with which opening a session can end.

Four kinds are promised, and two of them for one cause alone
(`Promised`): the refusal, for an answer with another status than that
of an upgrade, and the handshake failure, which every first message that
is no handshake frame must come to. The promise is kept exactly when the
first message is not bytes that are no text (`promised_iff`); for those
the failure of a relay frame comes out, the one that every other read
has for them (`failure_of_connect`).

Opening is dialling and one read. What dialling comes to is listed
(`DialEnds`). The read meets the first event on the new session or waits
for ever (`greets_or_stalled`), and what the event gives decides the
rest (`connect_of_greeted`).

The two kinds with one cause each are told apart from the others in both
directions: every such cause gives this kind, and the kind is given for
no other cause. The remaining two, the closed session and the failure of
the transport, are promised as kinds only. Answers that redirect are
followed below all this, so an answer here is the one at which that
comes to its end.
-/
import PairingHarness.Proofs.Frame.Handshake
import PairingHarness.Proofs.Network.Dropped

namespace PairingHarness.Network.Session

variable {w w' : World} {url : String} {address : Url} {e : Event}
  {f : Failure}

-- ======================================================= the statement

/-- The service takes the connection, and this is the first event on
it. -/
def Greeted (w : World) (url : String) (e : Event) : Prop :=
  ∃ address, Url.parse url = .ok address
    ∧ w.service.answer w.acts address = some .accepted
    ∧ Greets w address.target e

/-- The request for a session is answered with a status and nothing
else. -/
def AnsweredWith (w : World) (url : String) (status : Nat) : Prop :=
  ∃ address, Url.parse url = .ok address
    ∧ w.service.answer w.acts address = some (.status status)

/-- The payload of a data message. -/
inductive Carries : Event → List UInt8 → Prop where
  | text (payload : String) :
      Carries (.text payload) (Text.Utf8.encode payload)
  | binary (payload : List UInt8) : Carries (.binary payload) payload

/-- A payload that is a valid handshake frame. -/
def IsHandshake (payload : List UInt8) : Prop :=
  ∃ text handshake, payload = Text.Utf8.encode text
    ∧ Handshake.parse text = .ok handshake

/-- The kinds of failure that opening a session may have. -/
def isOpeningFailure : Failure → Bool
  | .refused _ | .closed _ | .handshake _ | .transport _ => true
  | _ => false

/-- What is promised of an attempt to open a session. -/
structure Promised (w : World) (url : String) : Prop where
  kinds : ∀ f w', connect url w = (.failed f, w') → isOpeningFailure f = true
  refused : ∀ status, (∃ w', connect url w = (.failed (.refused status), w'))
    ↔ AnsweredWith w url status ∧ status ≠ 101
  malformed : ∀ e payload, Greeted w url e → Carries e payload →
    payload ≠ [] → ¬IsHandshake payload →
    ∃ reason w', connect url w = (.failed (.handshake reason), w')

-- ============================================================= dialling

/-- What dialling comes to. -/
inductive DialEnds (url : String) (w : World) :
    Outcome Nat × World → Prop where
  | badAddress {fault : UrlFault} (hurl : Url.parse url = .error fault) :
      DialEnds url w
        (.failed (.transport ("connect to " ++ url ++ ": " ++ fault.message)), w)
  | unreachable {address : Url} (hurl : Url.parse url = .ok address)
      (h : w.service.answer w.acts address = none) :
      DialEnds url w
        (.failed (.transport ("connect to " ++ url ++ ": "
          ++ ("URL error: Unable to connect to " ++ address.shown))), w)
  | accepted {address : Url} (hurl : Url.parse url = .ok address)
      (h : w.service.answer w.acts address = some .accepted) :
      DialEnds url w
        (.done w.sessions.length, register url address.target w)
  | refused {address : Url} {status : Nat}
      (hurl : Url.parse url = .ok address)
      (h : w.service.answer w.acts address = some (.status status))
      (hne : status ≠ 101) :
      DialEnds url w (.failed (.refused status), register url address.target w)
  /-- The status of an upgrade, and no upgrade. -/
  | unfulfilled {address : Url} (hurl : Url.parse url = .ok address)
      (h : w.service.answer w.acts address = some (.status 101)) :
      DialEnds url w
        (.failed (.transport ("connect to " ++ url ++ ": "
          ++ UpgradeDefect.noUpgradeHeader.message)),
          register url address.target w)
  | defective {address : Url} {defect : UpgradeDefect}
      (hurl : Url.parse url = .ok address)
      (h : w.service.answer w.acts address = some (.defective defect)) :
      DialEnds url w
        (.failed (.transport ("connect to " ++ url ++ ": " ++ defect.message)),
          register url address.target w)
  | reset {address : Url} (hurl : Url.parse url = .ok address)
      (h : w.service.answer w.acts address = some .reset) :
      DialEnds url w
        (.failed (.closed ("during upgrade: " ++ resetReason)),
          register url address.target w)

/-- Dialling comes to one of the ends that are listed, with the world that
it leaves (`connect` up to the handshake). -/
theorem dial_ends (url : String) (w : World) :
    DialEnds url w (dial url w) := by
  unfold dial
  cases hurl : Url.parse url with
  | error fault => exact .badAddress hurl
  | ok address =>
      simp only [Run.get_bind]
      cases hanswer : w.service.answer w.acts address with
      | none => exact .unreachable hurl hanswer
      | some answer =>
          simp only [Run.change_bind]
          cases answer with
          | accepted => exact .accepted hurl hanswer
          | status code =>
              by_cases hc : code = 101
              · subst hc
                exact .unfulfilled hurl hanswer
              · simp only [if_neg hc]
                exact .refused hurl hanswer hc
          | defective defect => exact .defective hurl hanswer
          | reset => exact .reset hurl hanswer

/-- Dialling fails in three of the ways that are promised, and is
refused by a status only. -/
theorem DialEnds.failure (h : DialEnds url w (.failed f, w')) :
    isOpeningFailure f = true
      ∧ ∀ status, f = .refused status →
        AnsweredWith w url status ∧ status ≠ 101 := by
  cases h with
  | @refused address code hurl h hne =>
      refine ⟨rfl, fun status hf => ?_⟩
      cases hf
      exact ⟨⟨address, hurl, h⟩, hne⟩
  | badAddress => exact ⟨rfl, fun status hf => by cases hf⟩
  | unreachable => exact ⟨rfl, fun status hf => by cases hf⟩
  | unfulfilled => exact ⟨rfl, fun status hf => by cases hf⟩
  | defective => exact ⟨rfl, fun status hf => by cases hf⟩
  | reset => exact ⟨rfl, fun status hf => by cases hf⟩

/-- An answer with another status than the upgrade's is the refusal with
that status. -/
theorem connect_answeredWith {status : Nat}
    (h : AnsweredWith w url status) (hne : status ≠ 101) :
    ∃ w', connect url w = (.failed (.refused status), w') := by
  obtain ⟨address, hurl, hanswer⟩ := h
  have hdial : dial url w
      = (.failed (.refused status), register url address.target w) := by
    unfold dial
    simp only [hurl, Run.get_bind, hanswer, Run.change_bind, if_neg hne]
    rfl
  exact ⟨_, Run.bind_failed hdial⟩

-- =================================================== the first message

/-- The read that opens a session meets the first event on it, or waits
for ever. -/
theorem greets_or_stalled (url target : String) (w : World) :
    (∃ e, Greets w target e)
      ∨ ∃ w', receive w.sessions.length (register url target w)
        = (.stalled, w') := by
  obtain ⟨hlt, hsession⟩ := session_register url target w
  have hends := read_ends (closed_register url target w)
    (.arrival w.sessions.length)
  unfold receive
  generalize hread : read w.sessions.length (.arrival w.sessions.length)
    (register url target w) = result at hends
  cases hends with
  | silent _ _ =>
      rw [Run.bind_done hread]
      exact Or.inr ⟨_, rfl⟩
  | met hlooks he _ =>
      obtain ⟨quiet, hq, hinbox⟩ := firstEvent_eq_some he
      -- the greeting lies there already, or comes once it is waited for
      rcases hlooks with rfl | ⟨hnone, rfl⟩
      · rw [hsession] at hinbox
        exact Or.inl ⟨_, .atOnce hq hinbox⟩
      · rw [hsession] at hnone
        have hopened := firstEvent_eq_none hnone
        rw [session_afterWait hlt] at hinbox
        have hwaited : (register url target w).service.sendsOn
            w.sessions.length
            (.waited (.arrival w.sessions.length)
              :: (register url target w).acts)
            = w.service.sendsOn w.sessions.length
              (.waited (.arrival w.sessions.length)
                :: .opened target :: w.acts) := by
          unfold register
          rw [World.perform_service, World.perform_acts]
        rw [hwaited] at hinbox
        exact Or.inl ⟨_, .waited hopened hq hinbox⟩

/-- What opening comes to after its read. -/
def welcome : Answered → Outcome Handshake
  | .ok (.message text) =>
    match Handshake.parse text with
    | .ok handshake => .done handshake
    | .error f => .failed f
  | .ok (.closed reason) => .failed (.closed reason)
  | .error f => .failed f

/-- A first message that is a handshake opens the session. -/
theorem welcome_ok {text : String} {handshake : Handshake}
    (h : Handshake.parse text = .ok handshake) :
    welcome (.ok (.message text)) = .done handshake := by
  simp only [welcome, h]

/-- Any other text is the failure of its parse. -/
theorem welcome_error {text : String}
    (h : Handshake.parse text = .error f) :
    welcome (.ok (.message text)) = .failed f := by
  simp only [welcome, h]

/-- The first event on a session decides how opening it ends. -/
theorem connect_of_greeted {x : Answered} (h : Greeted w url e)
    (hg : Gives e x) : (connect url w).1.map Prod.snd = welcome x := by
  obtain ⟨address, hurl, hanswer, hfirst⟩ := h
  obtain ⟨w₁, hreceive⟩ := receive_greeting hfirst hg url
  unfold connect
  rw [Run.bind_done (dial_accepted hurl hanswer)]
  cases x with
  | error f =>
      rw [Run.bind_failed hreceive]
      rfl
  | ok r =>
      rw [Run.bind_done hreceive]
      cases r with
      | closed reason => rfl
      | message text =>
          cases hparse : Handshake.parse text with
          | ok handshake =>
              rw [welcome_ok hparse]
              simp only [hparse]
              rfl
          | error f =>
              rw [welcome_error hparse]
              simp only [hparse]
              rfl

theorem failed_of_map_snd {α β : Type} {r : Run (α × β)}
    (h : (r w).1.map Prod.snd = .failed f) : ∃ w', r w = (.failed f, w') := by
  cases hr : r w with
  | mk o w' =>
      rw [hr] at h
      cases o with
      | done a => cases h
      | failed f' =>
          cases h
          exact ⟨w', rfl⟩
      | stalled => cases h

/-- What opening comes to after a first event fails with a promised
kind that is no refusal, unless the event is bytes that are no text. -/
theorem failure_of_welcome {x : Answered} (hg : Gives e x)
    (h : welcome x = .failed f) :
    (isOpeningFailure f = true ∧ ∀ status, f ≠ .refused status)
      ∨ ∃ bytes fault, e = .binary bytes
        ∧ Text.Utf8.decode bytes = .error fault
        ∧ f = .frame ("binary frame is not UTF-8: " ++ fault.message) := by
  have hmessage : ∀ {text : String}, x = .ok (.message text) →
      isOpeningFailure f = true ∧ ∀ status, f ≠ .refused status := by
    intro text hx
    subst hx
    have hnot : ∀ handshake, Handshake.parse text ≠ .ok handshake := by
      intro handshake hparse
      rw [welcome_ok hparse] at h
      cases h
    obtain ⟨reason, hreason⟩ := Handshake.parse_eq_handshake hnot
    rw [welcome_error hreason] at h
    cases h
    exact ⟨rfl, fun status hf => by cases hf⟩
  cases hg with
  | text _ => exact Or.inl (hmessage rfl)
  | binary _ => exact Or.inl (hmessage rfl)
  | @notText bytes fault _ hfault =>
      cases h
      exact Or.inr ⟨bytes, fault, rfl, hfault, rfl⟩
  | violation v =>
      cases h
      exact Or.inl ⟨rfl, fun status hf => by cases hf⟩
  | ends _ =>
      cases h
      exact Or.inl ⟨rfl, fun status hf => by cases hf⟩

/-- Opening fails with a promised kind unless the first message is bytes
that are no text, and it is refused by a status only. -/
theorem failure_of_connect (h : connect url w = (.failed f, w')) :
    (isOpeningFailure f = true
        ∧ ∀ status, f = .refused status →
          AnsweredWith w url status ∧ status ≠ 101)
      ∨ ∃ bytes fault, Greeted w url (.binary bytes)
        ∧ Text.Utf8.decode bytes = .error fault
        ∧ f = .frame ("binary frame is not UTF-8: " ++ fault.message) := by
  have hends := dial_ends url w
  cases hdial : dial url w with
  | mk o w₁ =>
      rw [hdial] at hends
      cases o with
      | stalled => cases hends
      | failed f' =>
          have hfailed : connect url w = (.failed f', w₁) :=
            Run.bind_failed hdial
          rw [hfailed] at h
          cases h
          exact Or.inl hends.failure
      | done conn =>
          obtain ⟨address, hurl, hanswer, rfl, rfl⟩ := dial_eq_done hdial
          rcases greets_or_stalled url address.target w
            with ⟨e, hfirst⟩ | ⟨w₂, hstalled⟩
          · obtain ⟨x, hg⟩ := exists_gives e
            have hgreeted : Greeted w url e := ⟨address, hurl, hanswer, hfirst⟩
            have hwelcome := connect_of_greeted hgreeted hg
            rw [h] at hwelcome
            rcases failure_of_welcome hg hwelcome.symm
              with ⟨hkind, hne⟩ | ⟨bytes, fault, rfl, hfault, hf⟩
            · exact Or.inl ⟨hkind, fun status hf => absurd hf (hne status)⟩
            · exact Or.inr ⟨bytes, fault, hgreeted, hfault, hf⟩
          · unfold connect at h
            rw [Run.bind_done hdial, Run.bind_stalled hstalled] at h
            cases h

/-- Bytes that are no text come out as the failure of a relay frame. -/
theorem connect_bytes {bytes : List UInt8} {fault : Text.Utf8.Fault}
    (h : Greeted w url (.binary bytes))
    (hfault : Text.Utf8.decode bytes = .error fault) :
    ∃ w', connect url w = (.failed (.frame
      ("binary frame is not UTF-8: " ++ fault.message)), w') := by
  have hg : Gives (.binary bytes)
      (.error (.frame ("binary frame is not UTF-8: " ++ fault.message))) := by
    refine .notText (fun text htext => ?_) hfault
    rw [Text.Utf8.decode_eq_ok_iff.2 htext] at hfault
    cases hfault
  exact failed_of_map_snd (connect_of_greeted h hg)

/-- A first message of text that is no handshake is told as that. -/
theorem connect_malformed {text : String}
    (h : Greeted w url e) (hcarries : Carries e (Text.Utf8.encode text))
    (hne : text ≠ "") (hmalformed : ¬IsHandshake (Text.Utf8.encode text)) :
    ∃ reason w', connect url w = (.failed (.handshake reason), w') := by
  have hg : Gives e (.ok (.message text)) := by
    generalize hpayload : Text.Utf8.encode text = payload at hcarries
    cases hcarries with
    | text text' =>
        rw [← Text.Utf8.encode_inj hpayload]
        exact .text hne
    | binary bytes =>
        rw [← hpayload]
        exact .binary hne
  have hnot : ∀ handshake, Handshake.parse text ≠ .ok handshake :=
    fun handshake hparse => hmalformed ⟨text, handshake, rfl, hparse⟩
  obtain ⟨reason, hreason⟩ := Handshake.parse_eq_handshake hnot
  have hwelcome := connect_of_greeted h hg
  rw [welcome_error hreason] at hwelcome
  exact ⟨reason, failed_of_map_snd hwelcome⟩

-- ========================================================= the conclusion

/-- The promise is kept exactly when the first message is not bytes that
are no text. -/
theorem promised_iff (url : String) (w : World) :
    Promised w url ↔ ∀ bytes, Greeted w url (.binary bytes) →
      ∃ text, bytes = Text.Utf8.encode text := by
  constructor
  · intro hpromised bytes hgreeted
    -- a greeting of bytes that are no text would fail the attempt with an
    -- error that is none of the promised
    cases hdecode : Text.Utf8.decode bytes with
    | ok text => exact ⟨text, Text.Utf8.decode_eq_ok_iff.1 hdecode⟩
    | error fault =>
        obtain ⟨w', hconnect⟩ := connect_bytes hgreeted hdecode
        cases hpromised.kinds _ w' hconnect
  · intro htext
    -- the one exception to the promise is a greeting of such bytes, which is
    -- ruled out here
    have hfailure : ∀ {f w'}, connect url w = (.failed f, w') →
        isOpeningFailure f = true ∧ ∀ status, f = .refused status →
          AnsweredWith w url status ∧ status ≠ 101 := by
      intro f w' hconnect
      rcases failure_of_connect hconnect
        with hkept | ⟨bytes, fault, hgreeted, hfault, -⟩
      · exact hkept
      · obtain ⟨text, hbytes⟩ := htext bytes hgreeted
        rw [Text.Utf8.decode_eq_ok_iff.2 hbytes] at hfault
        cases hfault
    refine ⟨fun f w' hconnect => (hfailure hconnect).1, fun status => ?_, ?_⟩
    · constructor
      · intro hconnect
        obtain ⟨w', hconnect⟩ := hconnect
        exact (hfailure hconnect).2 status rfl
      · intro hanswered
        exact connect_answeredWith hanswered.1 hanswered.2
    · intro e payload hgreeted hcarries hne hmalformed
      obtain ⟨text, hpayload⟩ : ∃ text, payload = Text.Utf8.encode text := by
        cases hcarries with
        | text text => exact ⟨text, rfl⟩
        | binary => exact htext _ hgreeted
      subst hpayload
      refine connect_malformed hgreeted hcarries (fun hempty => hne ?_)
        hmalformed
      rw [hempty, Text.Utf8.encode_empty]

/-- A service whose first message is a byte that starts no text. -/
def garbling : Service where
  answer _ _ := some .accepted
  refuse _ _ _ := none
  sends
    | .opened _ :: _ => [⟨0, .event (.binary [0xff])⟩]
    | _ => []

/-- That byte breaks the promise. -/
theorem not_promised_garbling :
    ¬Promised (World.start garbling) "ws://h/v1/ws/" := by
  intro hpromised
  have hquiet : Quiet [] := fun a ha => nomatch ha
  have hgreeted : Greeted (World.start garbling) "ws://h/v1/ws/"
      (.binary [0xff]) :=
    ⟨⟨some "ws", "h", "/v1/ws/", none⟩, rfl, rfl, .atOnce hquiet rfl⟩
  have hfault : Text.Utf8.decode [0xff] = .error ⟨0, some 1⟩ := rfl
  obtain ⟨w', hconnect⟩ := connect_bytes hgreeted hfault
  cases hpromised.kinds _ w' hconnect

end PairingHarness.Network.Session
