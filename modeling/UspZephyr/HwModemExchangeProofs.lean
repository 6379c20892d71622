import UspZephyr.HwModemConversationProofs

/-! # No exchange with the hardware modem gets stuck

    From every state of a conversation some run completes the exchange under way,
    with one exception: `hw_modem_start_reception` finds a stale UART event that it
    cannot update, and returns with the receiver closed and BUSY still at 1.  The
    host then waits for ever (`step_stuck`); in every other state the phases of the
    exchange lead one to the next (`exchange_completes_iff`). -/

namespace HwModemConversation

open ByteMemory XorFrame HwModem StepRun
open HwModemHandshake (Machine Statements)

/-! ## Runs that complete an exchange -/

/-- A run from `s` that completes the exchange of `c`. -/
def Completable (p : CmdParser) (c : Command) (s : State) : Prop :=
  ∃ es t, run (step p) s es = some t ∧ t.host.pc = .idle
    ∧ t.host.answered = s.host.answered ++ [c]

/-- A run that answers nothing, and then the rest. -/
theorem Completable.append {p : CmdParser} {c : Command} {s t : State}
    {es : List Event} (h : run (step p) s es = some t)
    (hsame : t.host.answered = s.host.answered) (hrest : Completable p c t) :
    Completable p c s := by
  obtain ⟨fs, u, hrun, hpc, hanswered⟩ := hrest
  refine ⟨es ++ fs, u, ?_, hpc, hsame ▸ hanswered⟩
  rw [run_append, h]
  exact hrun

/-- A step, and then the rest. -/
theorem Completable.head {p : CmdParser} {c : Command} {s t : State} {e : Event}
    (h : step p s e = some t) (hsame : t.host.answered = s.host.answered)
    (hrest : Completable p c t) : Completable p c s := by
  have hrun : run (step p) s ([] ++ [e]) = some t := run_concat rfl h
  exact .append hrun hsame hrest

/-- Statements run while the host waits. -/
theorem run_statements {p : CmdParser} {m final : Machine} (h : Host)
    (hs : Statements p m final) :
    ∃ n, run (step p) ⟨m, h⟩ (List.replicate n .statement) = some ⟨final, h⟩ := by
  obtain ⟨n, hn⟩ := hs
  refine ⟨n, ?_⟩
  induction n generalizing m with
  | zero =>
      cases hn
      rfl
  | succ n ih =>
      obtain ⟨t, ht, hn⟩ := run_cons_some hn
      show ((HwModemHandshake.step p m .statement).map _).bind _ = _
      rw [ht]
      exact ih hn

/-- The host sees where the answer ends. -/
theorem isComplete_answer {p : CmdParser} (hp : p.Bounded) (c : Command)
    (response : Nat → UInt8) : isComplete (c.answer p response) = true := by
  have hle : (c.parsed p response).length ≤ 255 := hp _ _
  show ((firstBytes _ _ ++ [_]).length
    == (UInt8.ofNat (c.parsed p response).length).toNat + 1) = true
  rw [List.length_append, length_firstBytes,
    UInt8.toNat_ofNat_of_lt' (Nat.lt_succ_of_le hle)]
  exact beq_self_eq_true _

/-- An answer that was sent can be read to its end. -/
theorem completable_sent {p : CmdParser} (hp : p.Bounded) {c : Command}
    {s : State} (hpc : s.host.pc = .reading c)
    (hsent : s.machine.modem.uartTx = s.host.responses.flatten
      ++ c.answer p (serve p s.host.answered).2)
    (hanswer : s.host.answer <+: c.answer p (serve p s.host.answered).2)
    (hopen : isComplete s.host.answer = false) : Completable p c s := by
  obtain ⟨rest, hrest⟩ := hanswer
  obtain ⟨machine, host⟩ := s
  dsimp only at hpc hsent hrest hopen
  -- induction on the bytes the host has not read
  induction rest generalizing host with
  | nil =>
      rw [List.append_nil] at hrest
      rw [hrest, isComplete_answer hp] at hopen
      cases hopen
  | cons b rest ih =>
      have hb : machine.modem.uartTx[host.received.length]? = some b := by
        rw [hsent, ← hrest, ← List.append_assoc, Host.received,
          List.getElem?_append_right (Nat.le_refl _), Nat.sub_self]
        rfl
      have hstep : step p ⟨machine, host⟩ .readByte
          = some ⟨machine, host.read c b⟩ := by
        simp only [step, hpc, hb, Option.map_some]
      cases hcomplete : isComplete (host.answer ++ [b]) with
      | true =>
          rw [Host.read_last hcomplete] at hstep
          have hrun : run (step p) ⟨machine, host⟩ ([] ++ [.readByte]) = some _ :=
            run_concat rfl hstep
          exact ⟨_, _, hrun, rfl, rfl⟩
      | false =>
          rw [Host.read_more hcomplete] at hstep
          refine .head hstep rfl (ih _ hpc hsent hcomplete ?_)
          rw [List.append_assoc]
          exact hrest

theorem completable_reading {p : CmdParser} (hp : p.Bounded) {c : Command}
    {s : State} (hs : Inv p s) (hpc : s.host.pc = .reading c) :
    Completable p c s := by
  cases hs.phase with
  | answering c' final hpc' _ hserving _ hanswer hopen =>
      cases hpc.symm.trans hpc'
      obtain ⟨n, hrun⟩ := run_statements s.host hserving.statements
      exact .append hrun rfl
        (completable_sent hp hpc hserving.sent hanswer hopen)
  | idle hpc' | lowered _ hpc' | gaveUp _ hpc' | opened _ hpc'
  | receiving _ _ hpc' | raised _ hpc' | available _ hpc'
  | processing _ _ hpc' => cases hpc.symm.trans hpc'

/-- An invocation that serves the command raises BUSY, and the host sees it. -/
theorem completable_processing {p : CmdParser} (hp : p.Bounded) {c : Command}
    {s : State} {final : Machine} (hs : Inv p s)
    (hpc : s.host.pc = .waitAnswer c) (hserving : Serving p s c final) :
    Completable p c s := by
  obtain ⟨machine, host⟩ := s
  obtain ⟨n, hrun⟩ := run_statements host hserving.statements
  have hfinal : Inv p ⟨final, host⟩ := hs.run hp hrun
  have hbusy : final.modem.busy = true := congrArg Flags.busy hserving.flags
  have hstep : step p ⟨final, host⟩ .seeAnswer
      = some ⟨final, { host with pc := .reading c }⟩ := by
    simp only [step, show host.pc = .waitAnswer c from hpc, hbusy, if_true]
  exact .append hrun rfl (.head hstep rfl
    (completable_reading hp (seeAnswer_inv hfinal hstep) rfl))

/-- The function that ran last can return. -/
theorem rests_returns (p : CmdParser) {m : Machine} (h : Rests m) :
    Statements p m { m with pc := .idle } := by
  obtain ⟨modem, ep, pc, loc⟩ := m
  rcases h with hidle | ⟨i, hsend, hlast⟩
  · cases hidle
    exact .refl _ _
  · cases hsend
    exact .head (if_neg (Nat.not_lt.mpr hlast)) (.refl _ _)

/-- A command that has come is taken and served. -/
theorem completable_available {p : CmdParser} (hp : p.Bounded) {c : Command}
    {s : State} (hs : Inv p s) (hpc : s.host.pc = .waitAnswer c)
    (hrests : Rests s.machine) (havailable : s.machine.modem.hwCmdAvailable = true) :
    Completable p c s := by
  obtain ⟨machine, host⟩ := s
  obtain ⟨n, hrun⟩ := run_statements host (rests_returns p hrests)
  have hidle : Inv p ⟨{ machine with pc := .idle }, host⟩ := hs.run hp hrun
  have hstep : step p ⟨{ machine with pc := .idle }, host⟩ .invoke
      = some ⟨{ machine with
          pc := .checkId
          loc := { machine.loc with cmdLength := 0xFF } }, host⟩ :=
    Option.map_eq_some_iff.mpr ⟨_, if_pos ⟨rfl, havailable⟩, rfl⟩
  have hinvoked := invoke_inv hp hidle hstep
  refine .append hrun rfl (.head hstep rfl ?_)
  cases hinvoked.phase with
  | processing c' final hpc' _ hserving _ =>
      cases hpc.symm.trans hpc'
      exact completable_processing hp hinvoked hpc hserving
  | raised _ _ _ _ hsettled | available _ _ _ _ hsettled =>
      -- the invocation has only begun
      rcases hsettled.rests with hpc' | ⟨i, hpc', _⟩
      · cases hpc'
      · cases hpc'
  | idle hpc' | lowered _ hpc' | gaveUp _ hpc' | opened _ hpc'
  | receiving _ _ hpc' | answering _ _ hpc' => cases hpc.symm.trans hpc'

/-- COMMAND back at 1 makes the command available. -/
theorem completable_waitAnswer {p : CmdParser} (hp : p.Bounded) {c : Command}
    {s : State} (hs : Inv p s) (hpc : s.host.pc = .waitAnswer c) :
    Completable p c s := by
  cases hs.phase with
  | raised c' hpc' hflags _ hsettled _ =>
      have hedge : s.machine.edgePending = true := congrArg Flags.edge hflags
      have hstep : step p s (.wakeup false true)
          = some ⟨{ s.machine with
              modem := wakeupLineIrqHandler false true s.machine.modem
              edgePending := false }, s.host⟩ :=
        Option.map_eq_some_iff.mpr ⟨_, if_pos hedge, rfl⟩
      rw [handler_completes false true (congrArg Flags.ready hflags)
        (congrArg Flags.command hflags)] at hstep
      exact .head hstep rfl (completable_available hp (wakeup_inv hs hstep) hpc
        hsettled.rests rfl)
  | available c' hpc' hflags _ hsettled _ =>
      exact completable_available hp hs hpc hsettled.rests
        (congrArg Flags.available hflags)
  | processing c' final hpc' _ hserving _ =>
      cases hpc.symm.trans hpc'
      exact completable_processing hp hs hpc hserving
  | idle hpc' | lowered _ hpc' | gaveUp _ hpc' | opened _ hpc'
  | receiving _ _ hpc' | answering _ _ hpc' => cases hpc.symm.trans hpc'

/-- The rest of the frame is taken, and COMMAND goes back to 1. -/
theorem completable_sending {p : CmdParser} (hp : p.Bounded) {c : Command}
    {s : State} (hs : Inv p s) (hpc : s.host.pc = .sending c) :
    Completable p c s := by
  cases hs.phase with
  | receiving c' bs hpc' hflags _ _ _ =>
      have hrx : s.machine.modem.uartRxEnabled = true :=
        congrArg Flags.rx hflags
      have huart : step p s (.uart ⟨true, true, s.host.toModem⟩)
          = some ⟨{ s.machine with
              modem := uartIrqRxCallbackHandler ⟨true, true, s.host.toModem⟩
                s.machine.modem },
            { s.host with toModem := [] }⟩ := by
        have hdrop : s.host.toModem.drop
            (UartIrq.received ⟨true, true, s.host.toModem⟩).length = [] :=
          List.drop_length
        rw [← hdrop]
        refine (if_pos List.prefix_rfl).trans ?_
        exact Option.map_eq_some_iff.mpr ⟨_, if_pos hrx, rfl⟩
      have htaken := uart_inv hs huart
      refine .head huart rfl ?_
      generalize ({ s.machine with
        modem := uartIrqRxCallbackHandler ⟨true, true, s.host.toModem⟩
          s.machine.modem } : Machine) = m at htaken
      have hraise : step p ⟨m, { s.host with toModem := [] }⟩ .raiseCommand
          = some ⟨{ m with
              modem := { m.modem with command := true }
              edgePending := m.edgePending || (true != m.modem.command) },
            { s.host with pc := .waitAnswer c, toModem := [] }⟩ := by
        simp only [step, hpc]
        rfl
      exact .head hraise rfl
        (completable_waitAnswer hp (raiseCommand_inv htaken hraise) rfl)
  | idle hpc' | lowered _ hpc' | gaveUp _ hpc' | opened _ hpc' | raised _ hpc'
  | available _ hpc' | processing _ _ hpc' | answering _ _ hpc' =>
      cases hpc.symm.trans hpc'

/-- The handler gave up a reception: the receiver was not enabled and BUSY stays
    at 1. -/
def GaveUp (s : State) : Prop :=
  s.machine.modem.isHwModemReadyToReceive = false ∧ s.machine.modem.busy = true
    ∧ s.machine.modem.command = false

/-- BUSY at 0 lets the host send. -/
theorem completable_opened {p : CmdParser} (hp : p.Bounded) {c : Command}
    {s : State} (hs : Inv p s) (hpc : s.host.pc = .waitReady c)
    (hbusy : s.machine.modem.busy = false) : Completable p c s := by
  have hstep : step p s .seeReady
      = some ⟨s.machine,
          { s.host with pc := .sending c, toModem := c.frame.bytes }⟩ := by
    simp only [step, hpc, hbusy]
    rfl
  exact .head hstep rfl (completable_sending hp (seeReady_inv hs hstep) rfl)

theorem completable_waitReady {p : CmdParser} (hp : p.Bounded) {c : Command}
    {s : State} (hs : Inv p s) (hpc : s.host.pc = .waitReady c)
    (hgave : ¬ GaveUp s) : Completable p c s := by
  cases hs.phase with
  | lowered c' hpc' hflags _ _ =>
      have hedge : s.machine.edgePending = true := congrArg Flags.edge hflags
      have hstep : step p s (.wakeup false true)
          = some ⟨{ s.machine with
              modem := wakeupLineIrqHandler false true s.machine.modem
              edgePending := false }, s.host⟩ :=
        Option.map_eq_some_iff.mpr ⟨_, if_pos hedge, rfl⟩
      rw [handler_opens false true (congrArg Flags.ready hflags)
        (congrArg Flags.command hflags)] at hstep
      exact .head hstep rfl (completable_opened hp (wakeup_inv hs hstep) hpc rfl)
  | gaveUp _ _ hflags =>
      exact absurd ⟨congrArg Flags.ready hflags, congrArg Flags.busy hflags,
        congrArg Flags.command hflags⟩ hgave
  | opened c' hpc' hflags _ _ _ =>
      exact completable_opened hp hs hpc (congrArg Flags.busy hflags)
  | idle hpc' | receiving _ _ hpc' | raised _ hpc' | available _ hpc'
  | processing _ _ hpc' | answering _ _ hpc' => cases hpc.symm.trans hpc'

/-- A conversation that waits for a reception that never opens. -/
structure Stuck (s : State) : Prop where
  host : ∃ c, s.host.pc = .waitReady c
  flags : flags s.machine = ⟨false, false, true, false, false, false⟩
  rests : Rests s.machine

/-- Nothing but a return can happen to it. -/
theorem step_stuck {p : CmdParser} {s t : State} {e : Event} (hs : Stuck s)
    (h : step p s e = some t) : Stuck t := by
  obtain ⟨⟨c, hpc⟩, hflags, hrests⟩ := hs
  cases e with
  | lowerCommand | raiseCommand | seeAnswer | readByte =>
      simp only [step, hpc] at h
      cases h
  | seeReady =>
      simp only [step, hpc] at h
      exact absurd (congrArg Flags.busy hflags)
        (Option.ite_none_left_eq_some.mp h).1
  | wakeup rxReady irqUpdate =>
      obtain ⟨m, hm, -⟩ := Option.map_eq_some_iff.mp h
      cases (Option.ite_some_none_eq_some.mp hm).1.symm.trans
        (congrArg Flags.edge hflags)
  | uart u =>
      obtain ⟨m, hm, -⟩ :=
        Option.map_eq_some_iff.mp (Option.ite_none_right_eq_some.mp h).2
      cases (Option.ite_some_none_eq_some.mp hm).1.symm.trans
        (congrArg Flags.rx hflags)
  | invoke =>
      obtain ⟨m, hm, -⟩ := Option.map_eq_some_iff.mp h
      cases (Option.ite_some_none_eq_some.mp hm).1.2.symm.trans
        (congrArg Flags.available hflags)
  | statement =>
      obtain ⟨m, hm, rfl⟩ := Option.map_eq_some_iff.mp h
      obtain rfl := rests_statement hrests hm
      exact ⟨⟨c, hpc⟩, hflags, Or.inl rfl⟩

/-- A reception that was given up is the end of the conversation. -/
theorem not_completable {p : CmdParser} {c : Command} {s : State} (hs : Inv p s)
    (hgave : GaveUp s) : ¬ Completable p c s := by
  obtain ⟨hready, hbusy, hcommand⟩ := hgave
  have hstuck : Stuck s := by
    cases hs.phase with
    | gaveUp c' hpc hflags _ hsettled => exact ⟨⟨c', hpc⟩, hflags, hsettled.rests⟩
    | idle _ hflags | lowered _ _ hflags =>
        cases hready.symm.trans (congrArg Flags.ready hflags)
    | opened _ _ hflags | receiving _ _ _ hflags | raised _ _ hflags
    | available _ _ hflags => cases hbusy.symm.trans (congrArg Flags.busy hflags)
    | processing _ _ _ _ hserving | answering _ _ _ _ hserving =>
        cases hcommand.symm.trans hserving.quiet.2.2
  rintro ⟨es, t, hrun, hidle, -⟩
  obtain ⟨⟨c', hpc⟩, -, -⟩ := run_invariant Stuck (fun _ => True)
    (fun _ _ _ _ hs he => step_stuck hs he) (fun _ _ => trivial) hstuck hrun
  cases hpc.symm.trans hidle

/-- The command the host is about. -/
def HostPc.command : HostPc → Option Command
  | .idle => none
  | .waitReady c | .sending c | .waitAnswer c | .reading c => some c

theorem completable_idle {p : CmdParser} (hp : p.Bounded) (c : Command)
    {s : State} (hs : Inv p s) (hpc : s.host.pc = .idle) : Completable p c s := by
  have hstep : step p s (.lowerCommand c)
      = some ⟨{ s.machine with
          modem := { s.machine.modem with command := false }
          edgePending :=
            s.machine.edgePending || (false != s.machine.modem.command) },
        { s.host with pc := .waitReady c }⟩ := by
    simp only [step, hpc]
    rfl
  refine .head hstep rfl
    (completable_waitReady hp (lowerCommand_inv hs hstep) rfl ?_)
  cases hs.phase with
  | idle _ hflags =>
      -- the modem was ready
      rintro ⟨hready, -, -⟩
      cases hready.symm.trans (congrArg Flags.ready hflags)
  | lowered _ hpc' | gaveUp _ hpc' | opened _ hpc' | receiving _ _ hpc'
  | raised _ hpc' | available _ hpc' | processing _ _ hpc'
  | answering _ _ hpc' => cases hpc.symm.trans hpc'

/-- **NO EXCHANGE GETS STUCK UNLESS ITS RECEPTION WAS GIVEN UP**: in every state of
    a conversation the exchange under way, or between exchanges any next one, can
    be completed exactly when the handler has not given up. -/
theorem exchange_completes_iff (p : CmdParser) (hp : p.Bounded) (es : List Event)
    (s : State) (h : run (step p) initial es = some s) (c : Command)
    (hc : s.host.pc.command = none ∨ s.host.pc.command = some c) :
    Completable p c s ↔ ¬ GaveUp s := by
  have hs := (inv_initial p).run hp h
  constructor
  · intro hcompletable hgave
    exact not_completable hs hgave hcompletable
  · intro hgave
    have hsame : ∀ c', s.host.pc.command = some c' → c' = c := by
      intro c' hc'
      rcases hc with hnone | hsome
      · cases hnone.symm.trans hc'
      · exact Option.some.inj (hc'.symm.trans hsome)
    cases hpc : s.host.pc with
    | idle => exact completable_idle hp c hs hpc
    | waitReady c' =>
        obtain rfl := hsame c' (congrArg HostPc.command hpc)
        exact completable_waitReady hp hs hpc hgave
    | sending c' =>
        obtain rfl := hsame c' (congrArg HostPc.command hpc)
        exact completable_sending hp hs hpc
    | waitAnswer c' =>
        obtain rfl := hsame c' (congrArg HostPc.command hpc)
        exact completable_waitAnswer hp hs hpc
    | reading c' =>
        obtain rfl := hsame c' (congrArg HostPc.command hpc)
        exact completable_reading hp hs hpc

theorem exchange_completes_iff_emptyExchange :
    Completable silentParser emptyCommand
        ((run (step silentParser) initial (emptyExchange.take 12)).get (by decide))
      ↔ ¬ GaveUp
        ((run (step silentParser) initial (emptyExchange.take 12)).get
          (by decide)) :=
  exchange_completes_iff silentParser (fun _ _ => Nat.zero_le _)
    (emptyExchange.take 12) _ (Option.some_get _).symm emptyCommand (Or.inr rfl)

end HwModemConversation
