import TextAdventure.Terminal.Relay

/-!
# Relays and line streams

In whatever order the moves of a relay come, what the game has heard at one moment is what a line
stream over the same lines answers to the same calls.  So lines are heard in order and each once,
and the input is found to have ended after the last of them and not before.
-/

namespace TextAdventure

/-! ## Reading a line stream -/

namespace LineStream

variable {stream : LineStream}

theorem readLine_of_isClosed (h : stream.isClosed = true) : stream.readLine = (none, stream) := by
  obtain ⟨place, hplace⟩ := Option.isSome_iff_exists.mp h
  rw [readLine, hplace]

/-- An open stream gives the first line that is pending, and closes if there is none. -/
theorem readLine_of_open (h : stream.isClosed = false) :
    stream.readLine.1 = stream.source.pending.head?.map withoutReturns ∧
      stream.readLine.2.source.pending = stream.source.pending.tail ∧
      stream.readLine.2.isClosed = stream.source.pending.isEmpty ∧
      stream.readLine.2.written = stream.written ++ [stream.query.getD defaultQuery] ∧
      stream.readLine.2.query = none := by
  obtain ⟨source, written, query, endedAt⟩ := stream
  obtain rfl : endedAt = none := Option.isNone_iff_eq_none.mp (Option.isSome_eq_false_iff.mp h)
  obtain ⟨hhead, htail⟩ := source.receive_eq
  cases hreceive : source.receive with
  | mk heard rest =>
      rw [hreceive] at hhead htail
      simp only [readLine, write, hreceive]
      rw [← hhead]
      cases heard with
      | some line =>
          cases hpending : source.pending with
          | nil => cases hpending ▸ hhead
          | cons first later => exact ⟨rfl, hpending ▸ htail, rfl, rfl, rfl⟩
      | none =>
          cases hpending : source.pending with
          | nil => exact ⟨rfl, hpending ▸ htail, rfl, rfl, rfl⟩
          | cons first later => cases hpending ▸ hhead

/-- The lines that are still to be heard from a stream. -/
def unheard (stream : LineStream) : List String :=
  if stream.isClosed then [] else stream.source.pending.map withoutReturns

theorem isClosed_display (stream : LineStream) (text : String) (query : Option String) :
    (stream.display text query).isClosed = stream.isClosed := by
  unfold display
  dsimp only
  split <;> rfl

theorem unheard_display (stream : LineStream) (text : String) (query : Option String) :
    (stream.display text query).unheard = stream.unheard := by
  unfold unheard display
  dsimp only
  split <;> rfl

end LineStream

/-- A stream of bytes has the lines that its reading side gets before the first that is no text. -/
theorem Reader.linesBeforeFault_decodeLine? (lines : List (List UInt8)) :
    linesBeforeFault (lines.map LineStream.decodeLine?) = LineStream.readableLines lines := by
  induction lines with
  | nil => rfl
  | cons bytes rest ih =>
      rw [List.map_cons, LineStream.readableLines]
      cases LineStream.decodeLine? bytes with
      | none => rfl
      | some line => exact congrArg (List.cons line) ih

namespace Relay

/-! ## Calls on a line stream -/

namespace Call

/-- What a call makes of a line stream, and the event that it makes. -/
def onStream (stream : LineStream) : Call → Event × LineStream
  | display text query => (.displayed text query, stream.display text query)
  | clear => (.cleared, stream.clear)
  | read ask => (.answered ask stream.readLine.1, stream.readLine.2)

def allOnStream (stream : LineStream) : List Call → List Event × LineStream
  | [] => ([], stream)
  | call :: calls =>
      let first := call.onStream stream
      let later := allOnStream first.2 calls
      (first.1 :: later.1, later.2)

/-- What a call gives on any terminal. -/
def onTerminal (terminal : Terminal) : Call → Except Fault (List Answer × Terminal)
  | display text query => (terminal.display text query).map fun after => ([], after)
  | clear => .ok ([], terminal.clear)
  | read .line => terminal.readLine.map fun (heard, after) => ([.line heard], after)
  | read (.choice count) =>
      (terminal.readChoice count).map fun (index, after) => ([.choice index], after)

def allOnTerminal (terminal : Terminal) : List Call → Except Fault (List Answer × Terminal)
  | [] => .ok ([], terminal)
  | call :: calls => do
      let (answers, after) ← call.onTerminal terminal
      let (later, last) ← allOnTerminal after calls
      .ok (answers ++ later, last)

theorem onTerminal_stream (stream : LineStream) (call : Call) :
    call.onTerminal (.stream stream) =
      .ok ((call.onStream stream).1.answer?.toList, .stream (call.onStream stream).2) := by
  cases call with
  | display text query => rfl
  | clear => rfl
  | read ask =>
      cases ask with
      | line => rfl
      | choice count => rfl

theorem allOnTerminal_stream (stream : LineStream) (calls : List Call) :
    allOnTerminal (.stream stream) calls =
      .ok ((allOnStream stream calls).1.filterMap Event.answer?,
        .stream (allOnStream stream calls).2) := by
  induction calls generalizing stream with
  | nil => rfl
  | cons call calls ih =>
      rw [allOnTerminal, onTerminal_stream]
      change (do
        let (later, last) ← allOnTerminal (.stream (call.onStream stream).2) calls
        Except.ok ((call.onStream stream).1.answer?.toList ++ later, last)) = _
      rw [ih, allOnStream, List.filterMap_cons]
      cases (call.onStream stream).1.answer? with
      | none => rfl
      | some answer => rfl

theorem allOnStream_append (stream : LineStream) (calls later : List Call) :
    allOnStream stream (calls ++ later) =
      ((allOnStream stream calls).1 ++ (allOnStream (allOnStream stream calls).2 later).1,
        (allOnStream (allOnStream stream calls).2 later).2) := by
  induction calls generalizing stream with
  | nil => rfl
  | cons call calls ih => rw [List.cons_append, allOnStream, ih, allOnStream, List.cons_append]

end Call

/-! ## What is heard -/

/-- What the reads among some events have heard. -/
def heard (events : List Event) : List (Option String) :=
  events.filterMap Event.heard?

/-- A stream gives its lines one after another, and then nothing more; only then it is closed. -/
theorem Call.heard_allOnStream (stream : LineStream) (calls : List Call) :
    ∃ count ended,
      heard (allOnStream stream calls).1 =
          (stream.unheard.take count).map some ++ List.replicate ended none ∧
        (0 < ended → stream.unheard.length ≤ count) ∧
        ((allOnStream stream calls).2.isClosed = true ↔ stream.isClosed = true ∨ 0 < ended) := by
  induction calls generalizing stream with
  | nil => exact ⟨0, 0, rfl, nofun, by simp [allOnStream]⟩
  | cons call calls ih =>
      cases call with
      | display text query =>
          obtain ⟨count, ended, hheard, hall, hclosed⟩ := ih (stream.display text query)
          rw [LineStream.unheard_display] at hheard hall
          rw [LineStream.isClosed_display] at hclosed
          exact ⟨count, ended, hheard, hall, hclosed⟩
      | clear => exact ih stream.clear
      | read ask =>
          obtain ⟨count, ended, hheard, hall, hclosed⟩ := ih stream.readLine.2
          rcases Bool.eq_false_or_eq_true stream.isClosed with hend | hopen
          · have hread := LineStream.readLine_of_isClosed hend
            have hnone : stream.unheard = [] := if_pos hend
            rw [hread] at hheard hclosed
            refine ⟨0, ended + 1, ?_, fun _ => hnone ▸ Nat.le_refl 0, ?_⟩
            · rw [hnone] at hheard ⊢
              simpa [allOnStream, onStream, heard, Event.heard?, hread, List.replicate_succ]
                using hheard
            · rw [allOnStream, onStream, hread, hclosed]
              simp [hend]
          · obtain ⟨hfirst, hpending, hafter, -, -⟩ := LineStream.readLine_of_open hopen
            have hunheard : stream.unheard = stream.source.pending.map LineStream.withoutReturns :=
              if_neg (by rw [hopen]; exact Bool.false_ne_true)
            cases hlines : stream.source.pending with
            | nil =>
                rw [hlines] at hfirst hafter hunheard
                have hnone : stream.readLine.2.unheard = [] := if_pos hafter
                rw [hnone] at hheard
                refine ⟨0, ended + 1, ?_, fun _ => hunheard ▸ Nat.le_refl 0, ?_⟩
                · simpa [allOnStream, onStream, heard, Event.heard?, hfirst, List.replicate_succ]
                    using hheard
                · rw [allOnStream, onStream, hclosed, hafter]
                  simp
            | cons line rest =>
                rw [hlines] at hfirst hpending hafter hunheard
                have hrest : stream.readLine.2.unheard = rest.map LineStream.withoutReturns := by
                  rw [LineStream.unheard, hafter, hpending]
                  rfl
                rw [hrest] at hheard hall
                refine ⟨count + 1, ended, ?_, fun hpos => ?_, ?_⟩
                · rw [hunheard]
                  simpa [allOnStream, onStream, heard, Event.heard?, hfirst] using hheard
                · rw [hunheard]
                  exact Nat.succ_le_succ (hall hpos)
                · rw [allOnStream, onStream, hclosed, hafter, hopen]
                  simp

/-! ## Relays follow line streams -/

/-- Whether a line stream has got as far as a relay has: it has the same lines to give, and a read
that the game waits in is still to be made. -/
structure Tracks (relay : Relay) (stream : LineStream) : Prop where
  room : relay.channel.length ≤ capacity
  isClosed_eq : stream.isClosed = relay.isClosed
  pending_eq : relay.isHeld = true →
    stream.source.pending = relay.channel ++ relay.reader.unsent
  idle : relay.waiting = none → stream.written = relay.written ∧ stream.query = relay.query
  asking : ∀ ask, relay.waiting = some ask →
    relay.isHeld = true ∧ relay.isClosed = false ∧ relay.query = none ∧
      relay.written = stream.written ++ [stream.query.getD LineStream.defaultQuery]

theorem tracks_start (input : List (Option String)) :
    (start input).Tracks (LineStream.ofLines (Reader.linesBeforeFault input)) where
  room := Nat.zero_le _
  isClosed_eq := rfl
  pending_eq := fun _ => rfl
  idle := fun _ => ⟨rfl, rfl⟩
  asking := nofun

namespace Tracks

variable {relay after : Relay} {stream : LineStream}

/-- A read that gives a line or none changes nothing of what is to be sent. -/
theorem read (h : relay.Tracks stream) (hread : relay.read = some after) :
    after.Tracks stream := by
  unfold Relay.read at hread
  split at hread
  next line input hreader =>
    cases hread
    refine { h with pending_eq := fun hheld => ?_ }
    rw [h.pending_eq hheld, hreader]
    rfl
  next input hnone hreader =>
    cases hread
    refine { h with pending_eq := fun hheld => ?_ }
    rw [h.pending_eq hheld, hreader]
    cases input with
    | nil => rfl
    | cons first rest =>
        cases first with
        | none => rfl
        | some line => cases hnone line rest rfl
  next => cases hread

theorem send (h : relay.Tracks stream) (hsend : relay.send = some after) :
    after.Tracks stream := by
  unfold Relay.send at hsend
  split at hsend
  next line input hreader =>
    split at hsend
    next hheld =>
      split at hsend
      next hroom =>
        cases hsend
        refine { h with room := ?_, pending_eq := fun _ => ?_ }
        · rw [List.length_append]
          exact hroom
        · rw [h.pending_eq hheld, hreader, List.append_assoc]
          rfl
      next => cases hsend
    next hgone =>
      cases hsend
      exact { h with pending_eq := fun hheld => absurd hheld hgone }
  next => cases hsend

theorem hangUp (h : relay.Tracks stream) (hready : relay.isReady = true) :
    Tracks { relay with isHeld := false, channel := [] } stream where
  room := Nat.zero_le _
  isClosed_eq := h.isClosed_eq
  pending_eq := nofun
  idle := h.idle
  asking := fun ask hask => by
    have hnone := Option.isNone_iff_eq_none.mp (Bool.and_eq_true_iff.mp hready).2
    cases hnone.symm.trans hask

/-- A call is made on the stream when it is made on the relay, but for a read that has to wait. -/
theorem make (h : relay.Tracks stream) (hready : relay.isReady = true) (call : Call) :
    ∃ later, Call.allOnStream stream ((relay.make call).1.map Event.call) =
        ((relay.make call).1, later) ∧ (relay.make call).2.Tracks later := by
  obtain ⟨hheld, hwaiting⟩ := Bool.and_eq_true_iff.mp hready
  have hnone := Option.isNone_iff_eq_none.mp hwaiting
  obtain ⟨hwritten, hquery⟩ := h.idle hnone
  have hidle : ∀ ask, relay.waiting ≠ some ask := fun ask hask => nomatch hnone.symm.trans hask
  cases call with
  | display text query =>
      refine ⟨stream.display text query, rfl, ?_⟩
      unfold Relay.make LineStream.display
      dsimp only
      split
      · exact { h with
          idle := fun _ => ⟨hwritten, rfl⟩
          asking := fun ask hask => absurd hask (hidle ask) }
      · refine { h with
          idle := fun _ => ⟨congrArg (· ++ [text ++ "\n"]) hwritten, rfl⟩
          asking := fun ask hask => absurd hask (hidle ask) }
  | clear =>
      refine ⟨stream.clear, rfl, { h with
        idle := fun _ => ⟨congrArg (· ++ ["\x1b[2J\x1b[H"]) hwritten, hquery⟩
        asking := fun ask hask => absurd hask (hidle ask) }⟩
  | read ask =>
      unfold Relay.make
      dsimp only
      split
      next hclosed =>
        have hread := LineStream.readLine_of_isClosed (h.isClosed_eq.trans hclosed)
        refine ⟨stream, ?_, h⟩
        simp only [List.map_singleton, Event.call, Call.allOnStream, Call.onStream, hread]
      next hopen =>
        refine ⟨stream, rfl, { h with idle := nofun, asking := fun _ _ => ?_ }⟩
        refine ⟨hheld, Bool.eq_false_iff.mpr hopen, rfl, ?_⟩
        rw [hwritten, hquery]
        rfl

/-- A read that ends is made on the stream then. -/
theorem receive (h : relay.Tracks stream) {events : List Event}
    (hreceive : relay.receive = some (events, after)) :
    ∃ later, Call.allOnStream stream (events.map Event.call) = (events, later) ∧
      after.Tracks later := by
  unfold Relay.receive at hreceive
  split at hreceive
  next => cases hreceive
  next ask line rest hask hchannel =>
    cases hreceive
    obtain ⟨hheld, hopen, hquery, hwritten⟩ := h.asking ask hask
    have hpending := h.pending_eq hheld
    obtain ⟨hfirst, hlater, hclosed, hpieces, hasked⟩ :=
      LineStream.readLine_of_open (h.isClosed_eq.trans hopen)
    rw [hpending, hchannel] at hfirst hlater hclosed
    have hroom : (line :: rest).length ≤ capacity := hchannel ▸ h.room
    refine ⟨stream.readLine.2, ?_, ?_⟩
    · simp only [List.map_singleton, Event.call, Call.allOnStream, Call.onStream, hfirst]
      rfl
    · exact
        { room := Nat.le_of_succ_le hroom
          isClosed_eq := hclosed.trans hopen.symm
          pending_eq := fun _ => hlater
          idle := fun _ => ⟨hpieces.trans hwritten.symm, hasked.trans hquery.symm⟩
          asking := nofun }
  next ask hask hchannel =>
    split at hreceive
    next hgone =>
      cases hreceive
      obtain ⟨hheld, hopen, hquery, hwritten⟩ := h.asking ask hask
      have hpending := h.pending_eq hheld
      obtain ⟨hfirst, hlater, hclosed, hpieces, hasked⟩ :=
        LineStream.readLine_of_open (h.isClosed_eq.trans hopen)
      rw [hpending, hchannel, hgone] at hfirst hlater hclosed
      refine ⟨stream.readLine.2, ?_, ?_⟩
      · simp only [List.map_singleton, Event.call, Call.allOnStream, Call.onStream, hfirst]
        rfl
      · exact
          { room := h.room
            isClosed_eq := hclosed
            pending_eq := fun _ => by rw [hlater, hchannel, hgone]; rfl
            idle := fun _ => ⟨hpieces.trans hwritten.symm, hasked.trans hquery.symm⟩
            asking := nofun }
    next => cases hreceive

/-- What one move does to a relay, the calls that it ends do to the stream. -/
theorem step (h : relay.Tracks stream) {move : Move} {events : List Event}
    (hstep : relay.step? move = some (events, after)) :
    ∃ later, Call.allOnStream stream (events.map Event.call) = (events, later) ∧
      after.Tracks later := by
  cases move with
  | read =>
      obtain ⟨moved, hread, hpair⟩ := Option.map_eq_some_iff.mp hstep
      cases hpair
      exact ⟨stream, rfl, h.read hread⟩
  | send =>
      obtain ⟨moved, hsend, hpair⟩ := Option.map_eq_some_iff.mp hstep
      cases hpair
      exact ⟨stream, rfl, h.send hsend⟩
  | call call =>
      rw [step?] at hstep
      split at hstep
      next hready =>
        cases hmake : relay.make call with
        | mk made moved =>
            rw [hmake] at hstep
            cases hstep
            have hmade := h.make hready call
            rwa [hmake] at hmade
      next => cases hstep
  | receive => exact h.receive hstep
  | hangUp =>
      rw [step?] at hstep
      split at hstep
      next hready =>
        cases hstep
        exact ⟨stream, rfl, h.hangUp hready⟩
      next => cases hstep

theorem run (h : relay.Tracks stream) {moves : List Move} {events : List Event}
    (hrun : relay.run? moves = some (events, after)) :
    ∃ later, Call.allOnStream stream (events.map Event.call) = (events, later) ∧
      after.Tracks later := by
  induction moves generalizing relay stream events with
  | nil =>
      cases hrun
      exact ⟨stream, rfl, h⟩
  | cons move moves ih =>
      rw [run?] at hrun
      split at hrun
      · cases hrun
      next made moved hstep =>
        split at hrun
        · cases hrun
        next rest last hrest =>
          cases hrun
          obtain ⟨middle, hmade, hmiddle⟩ := h.step hstep
          obtain ⟨later, hlater, htracks⟩ := ih hmiddle hrest
          refine ⟨later, ?_, htracks⟩
          rw [List.map_append, Call.allOnStream_append, hmade, hlater]

end Tracks

/-! ## Every read ends -/

theorem run?_append {relay middle last : Relay} {moves later : List Move}
    {events more : List Event} (h : relay.run? moves = some (events, middle))
    (hlater : middle.run? later = some (more, last)) :
    relay.run? (moves ++ later) = some (events ++ more, last) := by
  induction moves generalizing relay events with
  | nil =>
      cases h
      exact hlater
  | cons move moves ih =>
      rw [run?] at h
      split at h
      · cases h
      next made moved hstep =>
        split at h
        · cases h
        next rest ending hrest =>
          cases h
          rw [List.cons_append, run?, hstep]
          dsimp only
          rw [ih hrest, List.append_assoc]

/-- Whatever the reading side is at, it can go on until a read that the game waits in ends. -/
theorem exists_answer (relay : Relay) {ask : Ask} (hask : relay.waiting = some ask)
    (hheld : relay.isHeld = true) :
    ∃ moves heard after, relay.run? moves = some ([.answered ask heard], after) ∧
      after.isReady = true := by
  obtain ⟨reader, channel, isHeld, waiting, written, query, isClosed⟩ := relay
  cases hask
  cases hheld
  cases channel with
  | cons line rest => exact ⟨[.receive], _, _, rfl, rfl⟩
  | nil =>
      cases reader with
      | gone => exact ⟨[.receive], _, _, rfl, rfl⟩
      | sending line input => exact ⟨[.send, .receive], _, _, rfl, rfl⟩
      | reading input =>
          match input with
          | [] => exact ⟨[.read, .receive], _, _, rfl, rfl⟩
          | none :: input => exact ⟨[.read, .receive], _, _, rfl, rfl⟩
          | some line :: input => exact ⟨[.read, .send, .receive], _, _, rfl, rfl⟩

theorem run?_call {relay : Relay} (hready : relay.isReady = true) (call : Call) :
    relay.run? [.call call] = some (relay.make call) := by
  have hcall : relay.step? (.call call) = some (relay.make call) := if_pos hready
  rw [run?, hcall]
  change some ((relay.make call).1 ++ [], (relay.make call).2) = _
  rw [List.append_nil]

/-- A call can always be carried to its end. -/
theorem exists_event {relay : Relay} (hready : relay.isReady = true) (call : Call) :
    ∃ moves event after, relay.run? moves = some ([event], after) ∧ event.call = call ∧
      after.isReady = true := by
  have hmade := run?_call hready call
  cases call with
  | display text query =>
      refine ⟨_, .displayed text query, _, hmade, rfl, ?_⟩
      split <;> exact hready
  | clear => exact ⟨_, .cleared, _, hmade, rfl, hready⟩
  | read ask =>
      rw [make] at hmade
      split at hmade
      next hclosed => exact ⟨_, .answered ask none, relay, hmade, rfl, hready⟩
      next hopen =>
        have hheld := (Bool.and_eq_true_iff.mp hready).1
        obtain ⟨moves, heard, after, hrun, hafter⟩ := exists_answer (relay.await ask) rfl hheld
        exact ⟨_, .answered ask heard, after, run?_append hmade hrun, rfl, hafter⟩

/-- A game that is ready can make all calls that it may want to make. -/
theorem exists_run {relay : Relay} (hready : relay.isReady = true) (calls : List Call) :
    ∃ moves events after, relay.run? moves = some (events, after) ∧
      events.map Event.call = calls := by
  induction calls generalizing relay with
  | nil => exact ⟨[], [], relay, rfl, rfl⟩
  | cons call calls ih =>
      obtain ⟨moves, event, middle, hfirst, rfl, hmiddle⟩ := exists_event hready call
      obtain ⟨later, events, last, hlater, rfl⟩ := ih hmiddle
      exact ⟨moves ++ later, event :: events, last, run?_append hfirst hlater, rfl⟩

/-- A game that has not hung up first ends the read that it waits in. -/
theorem exists_run_of_isHeld {relay : Relay} (hheld : relay.isHeld = true) (calls : List Call) :
    ∃ moves events after, relay.run? moves = some (events, after) ∧
      events.map Event.call = relay.waiting.toList.map Call.read ++ calls := by
  cases hwaiting : relay.waiting with
  | none =>
      have hready : relay.isReady = true := by rw [isReady, hheld, hwaiting]; rfl
      exact exists_run hready calls
  | some ask =>
      obtain ⟨moves, heard, middle, hfirst, hmiddle⟩ := relay.exists_answer hwaiting hheld
      obtain ⟨later, events, last, hlater, rfl⟩ := exists_run hmiddle calls
      exact ⟨moves ++ later, .answered ask heard :: events, last, run?_append hfirst hlater, rfl⟩

/-! ## Runs -/

/-- In every run, at every moment: the reads that have ended heard the lines before the first fault
in order and each once, without their carriage returns, and then nothing; nothing is heard only
after all lines, and only then the input is closed.  At most one line is in the channel.  A line
stream over the same lines answers the same calls alike.  A game that has not hung up can go on
with any calls, after the read that it waits in. -/
theorem heard_of_run {input : List (Option String)} {moves : List Move} {events : List Event}
    {relay : Relay} (h : (start input).run? moves = some (events, relay)) :
    (∃ count ended,
        heard events =
            (((Reader.linesBeforeFault input).map LineStream.withoutReturns).take count).map some ++
              List.replicate ended none ∧
          (0 < ended → (Reader.linesBeforeFault input).length ≤ count) ∧
          (relay.isClosed = true ↔ 0 < ended)) ∧
      relay.channel.length ≤ 1 ∧
      (∃ stream : LineStream, stream.isClosed = relay.isClosed ∧
        Call.allOnTerminal (.stream (LineStream.ofLines (Reader.linesBeforeFault input)))
            (events.map Event.call) =
          .ok (events.filterMap Event.answer?, .stream stream)) ∧
      (relay.isHeld = true → ∀ calls, ∃ later more last,
        relay.run? later = some (more, last) ∧
          more.map Event.call = relay.waiting.toList.map Call.read ++ calls) := by
  obtain ⟨stream, hcalls, htracks⟩ := (tracks_start input).run h
  obtain ⟨count, ended, hheard, hall, hclosed⟩ := Call.heard_allOnStream
    (LineStream.ofLines (Reader.linesBeforeFault input)) (events.map Event.call)
  have hlines : (LineStream.ofLines (Reader.linesBeforeFault input)).unheard =
      (Reader.linesBeforeFault input).map LineStream.withoutReturns := rfl
  rw [hcalls] at hheard hclosed
  rw [hlines, List.length_map] at hall
  refine ⟨⟨count, ended, hheard, hall, ?_⟩, htracks.room,
    ⟨stream, htracks.isClosed_eq, ?_⟩, exists_run_of_isHeld⟩
  · rw [← htracks.isClosed_eq, hclosed]
    exact or_iff_right Bool.false_ne_true
  · rw [Call.allOnTerminal_stream, hcalls]

/-- The line "look" with a carriage return, the line "2", a line that is no text, and "quit". -/
def harbourBytes : List UInt8 :=
  [108, 111, 111, 107, 13, 10, 50, 10, 255, 10, 113, 117, 105, 116]

def harbourInput : List (Option String) :=
  (LineStream.splitLines harbourBytes).map LineStream.decodeLine?

/-- The game waits before the first line is read, and chooses while the second is being sent. -/
def harbourMoves : List Move :=
  [ .call (.read .line), .read, .send, .read, .receive, .call (.display "Pick one" (some "? ")),
    .send, .call (.read (.choice 3)), .read, .receive, .call (.read .line), .receive,
    .call (.read (.choice 3)) ]

def harbourEvents : List Event :=
  [ .answered .line (some "look"), .displayed "Pick one" (some "? "),
    .answered (.choice 3) (some "2"), .answered .line none, .answered (.choice 3) none ]

def harbourEnd : Relay where
  reader := .gone
  channel := []
  isHeld := true
  waiting := none
  written := ["> ", "Pick one\n", "? ", "> "]
  query := none
  isClosed := true

theorem heard_of_run_harbour :
    (start harbourInput).run? harbourMoves = some (harbourEvents, harbourEnd) ∧
      ∃ stream : LineStream, stream.isClosed = true ∧
        Call.allOnTerminal (.stream (LineStream.ofBytes harbourBytes))
            [.read .line, .display "Pick one" (some "? "), .read (.choice 3), .read .line,
              .read (.choice 3)] =
          .ok ([.line (some "look"), .choice (some 1), .line none, .choice none],
            .stream stream) := by
  have hrun : (start harbourInput).run? harbourMoves = some (harbourEvents, harbourEnd) := by
    decide +kernel
  obtain ⟨-, -, ⟨stream, hclosed, hcalls⟩, -⟩ := heard_of_run hrun
  rw [harbourInput, Reader.linesBeforeFault_decodeLine?] at hcalls
  refine ⟨hrun, stream, hclosed, ?_⟩
  have hanswers : harbourEvents.filterMap Event.answer? =
      [.line (some "look"), .choice (some 1), .line none, .choice none] := by decide +kernel
  rw [← hanswers]
  exact hcalls

end Relay

end TextAdventure
