/-
Which event a read meets.

A read of a session in use passes over pings and pongs and meets the
first event after them: one that is there (`Reaches.atOnce`), or, where
none is, the first that the service sends in return for the wait
(`Reaches.waited`). If there is neither, the wait was in vain
(`Silent`). What the read comes to is what the event gives, whatever
went before it and whatever comes after it (`read_of_reaches`); so an
end is read exactly when it is the event that is met
(`read_closed_iff`).

Pings are answered below the harness, which sees neither them nor what
answers them. So they are arrivals without an event: they lie in the
inbox in their place and delay nothing, and a wait in which nothing else
arrives was in vain although something did.
-/
import PairingHarness.Proofs.Network.Delivery

namespace PairingHarness.Network.Session

variable {w w' w₀ : World} {conn : Nat} {wait : Wait} {e : Event}

-- ======================================================= the statement

/-- The event that a read meets. -/
inductive Reaches (conn : Nat) (wait : Wait) (w : World) (e : Event) :
    Prop where
  | atOnce {quiet rest : List Arrival} (hq : Quiet quiet)
      (h : (w.session conn).inbox = quiet ++ .event e :: rest) :
      Reaches conn wait w e
  /-- It comes while the harness waits for it. -/
  | waited {quiet rest : List Arrival} (hnone : Quiet (w.session conn).inbox)
      (hq : Quiet quiet)
      (h : w.service.sendsOn conn (.waited wait :: w.acts)
        = quiet ++ .event e :: rest) :
      Reaches conn wait w e

/-- There is none, and none comes. -/
structure Silent (conn : Nat) (wait : Wait) (w : World) : Prop where
  before : Quiet (w.session conn).inbox
  during : Quiet (w.service.sendsOn conn (.waited wait :: w.acts))

-- ===================================================== the first event

/-- Pings and pongs in front are not the first event. -/
theorem firstEvent_quiet {quiet : List Arrival} (hq : Quiet quiet)
    (as : List Arrival) : firstEvent (quiet ++ as) = firstEvent as := by
  induction quiet with
  | nil => rfl
  | cons a quiet ih =>
      have hrest := ih fun b hb => hq b (List.mem_cons_of_mem _ hb)
      rcases hq a List.mem_cons_self with rfl | rfl
      · exact hrest
      · exact hrest

/-- There is no first event exactly where there are pings and pongs only. -/
theorem firstEvent_eq_none_iff {as : List Arrival} :
    firstEvent as = none ↔ Quiet as := by
  constructor
  · exact firstEvent_eq_none
  · intro hq
    rw [← List.append_nil as, firstEvent_quiet hq]
    rfl

/-- The world in which the event is met. -/
theorem looks_of_reaches (hlt : conn < w.sessions.length)
    (h : Reaches conn wait w e) :
    ∃ w₀ rest, Looks conn wait w w₀
      ∧ firstEvent (w₀.session conn).inbox = some (e, rest) := by
  cases h with
  | @atOnce quiet rest hq h =>
      refine ⟨w, rest, Or.inl rfl, ?_⟩
      rw [h, firstEvent_quiet hq]
      rfl
  | @waited quiet rest hnone hq h =>
      refine ⟨_, rest, Or.inr ⟨firstEvent_eq_none_iff.2 hnone, rfl⟩, ?_⟩
      rw [session_afterWait hlt]
      show firstEvent (w.service.sendsOn _ _) = _
      rw [h, firstEvent_quiet hq]
      rfl

-- ============================================================ the read

/-- A read of a session in use meets the event that is there, or came
while it waited, and what came after it is left in the inbox. -/
theorem read_of_looks {x : Answered} {rest : List Arrival}
    (hclosed : (w.session conn).closed = none) (hlooks : Looks conn wait w w₀)
    (he : firstEvent (w₀.session conn).inbox = some (e, rest))
    (hg : Gives e x) :
    ∃ w', read conn wait w = (x.outcome.map some, w')
      ∧ MeetEnds conn e (withInbox conn rest w₀) (x.outcome, w') := by
  have hends := read_ends hclosed wait
  generalize read conn wait w = result at hends
  cases hends with
  | silent hnone hsilent =>
      rcases hlooks with rfl | ⟨-, rfl⟩
      · rw [hnone] at he
        cases he
      · rw [hsilent] at he
        cases he
  | @met w₁ hlooks' e' rest' he' o w' hm =>
      -- whether to wait is settled by what lies in the inbox, so both looks
      -- are one
      have hw : w₁ = w₀ := by
        rcases hlooks with rfl | ⟨hnone, rfl⟩
        · rcases hlooks' with rfl | ⟨hnone', -⟩
          · rfl
          · rw [hnone'] at he
            cases he
        · rcases hlooks' with rfl | ⟨-, rfl⟩
          · rw [hnone] at he'
            cases he'
          · rfl
      rw [hw, he] at he'
      cases he'
      have ho : o = x.outcome := by
        cases hm with
        | message h => rw [← gives_unique h hg]; rfl
        | fails h => rw [← gives_unique h hg]; rfl
        | closes h _ => rw [← gives_unique (.ends h) hg]; rfl
      rw [hw, ho] at hm
      exact ⟨w', by rw [ho], hm⟩

/-- Reading a message takes it from the inbox and does nothing else. -/
theorem receive_of_looks {text : String} {rest : List Arrival}
    (hclosed : (w.session conn).closed = none)
    (hlooks : Looks conn (.arrival conn) w w₀)
    (he : firstEvent (w₀.session conn).inbox = some (.text text, rest))
    (hne : text ≠ "") :
    receive conn w = (.done (.message text), withInbox conn rest w₀) := by
  obtain ⟨w', hread, hmeets⟩ := read_of_looks hclosed hlooks he (.text hne)
  have hw : w' = withInbox conn rest w₀ := by
    generalize ho : Answered.outcome (.ok (.message text)) = o at hmeets
    cases hmeets with
    | message _ => rfl
    | fails _ => cases ho
    | closes _ _ => cases ho
  unfold receive
  rw [Run.bind_done hread, hw]
  rfl

/-- So does reading one that is there. -/
theorem receive_text {text : String} {rest : List Arrival}
    (h : (w.session conn).closed = none)
    (he : (w.session conn).inbox = .event (.text text) :: rest)
    (hne : text ≠ "") :
    receive conn w = (.done (.message text), withInbox conn rest w) := by
  refine receive_of_looks h (Or.inl rfl) ?_ hne
  rw [he]
  rfl

/-- A read comes to what the event that it meets gives. -/
theorem read_of_reaches {x : Answered}
    (hclosed : (w.session conn).closed = none)
    (h : Reaches conn wait w e) (hg : Gives e x) :
    ∃ w', read conn wait w = (x.outcome.map some, w') := by
  have hlt := World.lt_of_closed_eq_none hclosed
  obtain ⟨w₀, rest, hlooks, he⟩ := looks_of_reaches hlt h
  obtain ⟨w', hread, -⟩ := read_of_looks hclosed hlooks he hg
  exact ⟨w', hread⟩

/-- A read that meets nothing waits in vain. -/
theorem read_of_silent (hclosed : (w.session conn).closed = none)
    (h : Silent conn wait w) :
    ∃ w', read conn wait w = (.done none, w') := by
  have hlt := World.lt_of_closed_eq_none hclosed
  have hends := read_ends hclosed wait
  generalize read conn wait w = result at hends
  cases hends with
  | silent _ _ => exact ⟨_, rfl⟩
  | met hlooks he _ =>
      rcases hlooks with rfl | ⟨-, rfl⟩
      · rw [firstEvent_eq_none_iff.2 h.before] at he
        cases he
      · rw [session_afterWait hlt] at he
        simp only [firstEvent_eq_none_iff.2 h.during] at he
        cases he

/-- A read meets an event or waits in vain. -/
theorem reaches_or_silent (conn : Nat) (wait : Wait) (w : World) :
    (∃ e, Reaches conn wait w e) ∨ Silent conn wait w := by
  cases hthere : firstEvent (w.session conn).inbox with
  | some x =>
      obtain ⟨quiet, hq, hinbox⟩ := firstEvent_eq_some hthere
      exact Or.inl ⟨_, .atOnce hq hinbox⟩
  | none =>
      have hnone := firstEvent_eq_none hthere
      cases hcomes : firstEvent
          (w.service.sendsOn conn (.waited wait :: w.acts)) with
      | some x =>
          obtain ⟨quiet, hq, hsends⟩ := firstEvent_eq_some hcomes
          exact Or.inl ⟨_, .waited hnone hq hsends⟩
      | none => exact Or.inr ⟨hnone, firstEvent_eq_none hcomes⟩

/-- An end is read exactly when it is the event that is met. -/
theorem read_closed_iff (hclosed : (w.session conn).closed = none)
    {r : String} :
    (∃ w', read conn wait w = (.done (some (.closed r)), w'))
      ↔ ∃ e, Reaches conn wait w e ∧ Ends e r := by
  constructor
  · intro h
    obtain ⟨w', hread⟩ := h
    rcases reaches_or_silent conn wait w with ⟨e, hreaches⟩ | hsilent
    · obtain ⟨x, hg⟩ := exists_gives e
      obtain ⟨w₁, hread'⟩ := read_of_reaches hclosed hreaches hg
      rw [hread] at hread'
      cases hg with
      | ends he =>
          cases hread'
          exact ⟨e, hreaches, he⟩
      | text _ => cases hread'
      | binary _ => cases hread'
      | notText _ _ => cases hread'
      | violation _ => cases hread'
    · obtain ⟨w₁, hread'⟩ := read_of_silent hclosed hsilent
      rw [hread] at hread'
      cases hread'
  · intro h
    obtain ⟨e, hreaches, he⟩ := h
    exact read_of_reaches hclosed hreaches (.ends he)

end PairingHarness.Network.Session
