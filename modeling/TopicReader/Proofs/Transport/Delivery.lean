import TopicReader.Proofs.Run.Release
import TopicReader.Proofs.Transport.Broker
import TopicReader.Proofs.Transport.Polling

/-!
# `Proofs.Transport.Delivery` — a run up to the ends writes what the logs hold

A run that reads through a transport asks for streams, polls and closes, and its history says in which order. Here
the history of such a run is followed through the transport: the requests before the first poll place every stream
(`Placed`), the polls bring what lies behind the positions that were set (`Brings`), and what comes after the last
poll reads nothing. Where the run ends because every partition is at its end, nothing that was brought is left out.

## Contents
- **Calm.** `stops_eq_nil`: the transport stops no run by itself.
- **Parts.** `connected_placed`, `transfer_brings`, `release_quietly`.
- **Delivery.** `Delivered`, `Goes.through_of_eof`, `consume_delivers`.
-/

namespace TopicReader

open Run

variable {ν : Type} {n : Network ν} {o : TransportOptions} {sink : Sink}

namespace Transport

/-! ## Calm -/

/-- A transport stops no run by itself. -/
theorem stops_eq_nil (es : List Event) (a : Sides (Transport ν)) :
    ∀ x ∈ Sides.history (client n o) sink es a, x.stops = [] := by
  induction es generalizing a with
  | nil => exact List.forall_mem_nil _
  | cons e rest ih =>
    refine List.forall_mem_cons.mpr ⟨?_, ih _⟩
    cases e with
    | call call => cases call <;> rfl
    | write bytes => rfl
    | flush => rfl

/-! ## Parts -/

/-- **Opening streams**, one after the other, places all of them. -/
theorem opens_placed {C : LogConsumer n} {topic : String} {start : Offset} {ps : List Int}
    {a : Sides (Transport ν)}
    (fine : ∀ x ∈ a.history (client n o) sink (ps.map fun p => .call (.openStream topic p start)),
      x.failed = false)
    {opened : List Int} {rs : List Request} {t₀ : Transport ν} (h : Placed C topic start opened rs t₀ a.client) :
    ∃ qs, Placed C topic start (opened ++ ps) (rs ++ qs) t₀
      (a.after (client n o) sink (ps.map fun p => .call (.openStream topic p start))).client := by
  induction ps generalizing a opened rs with
  | nil => exact ⟨[], by simpa [Sides.after] using h⟩
  | cons p rest ih =>
    obtain ⟨hone, hrest⟩ := List.forall_mem_cons.mp fine
    cases hopen : a.client.openStream n topic p (.offset start) with
    | mk result t =>
    have hmeet : a.meet (client n o) sink (.call (.openStream topic p start))
        = (.called (.openStream topic p start) ⟨[], result.map fun _ => .nothing⟩, { a with client := t }) := by
      simp only [Sides.meet, Client.respond, client, quiet, hopen]; rfl
    rw [hmeet] at hone hrest
    cases result with
    | error f => cases hone
    | ok u =>
    obtain ⟨qs, hplaced⟩ := h.openStream hopen
    obtain ⟨qs', hall⟩ := ih hrest hplaced
    refine ⟨qs ++ qs', ?_⟩
    rw [List.append_assoc opened] at hall
    rw [List.map_cons, Sides.after, hmeet, ← List.append_assoc]
    exact hall

/-- **Before the first poll** every stream is placed. -/
theorem connected_placed (C : LogConsumer n) {s : Settings} {start : Offset} {hs : List Happening}
    {opened : List Int} {a : Sides (Transport ν)} (h : Connected s start hs opened) (none : a.client.streams = [])
    (told : a.history (client n o) sink (hs.map Happening.event) = hs) :
    ∃ rs, Placed C s.topic start opened rs a.client
      (a.after (client n o) sink (hs.map Happening.event)).client := by
  obtain ⟨seconds, -, hevents⟩ := h.events
  have hfine := h.fine
  rw [← told, hevents] at hfine
  rw [hevents]
  -- The first two events are the start and the query; what is left are the opens.
  have hopens := (List.forall_mem_cons.mp (List.forall_mem_cons.mp hfine).2).2
  have hprepares := (start_prepares n o a.client).trans (fetch_prepares n s.topic seconds (a.client.start n o).2)
  obtain ⟨rs, hplaced⟩ := Placed.of_prepares C s.topic start none hprepares
  obtain ⟨qs, hall⟩ := opens_placed hopens hplaced
  exact ⟨rs ++ qs, hall⟩

/-- What is known of a poll that did not fail. -/
theorem poll_happened {a : Sides (Transport ν)} {reply : Reply Yield}
    (told : (a.meet (client n o) sink (.call .poll)).1 = .called .poll reply)
    (fine : (Happening.called .poll reply).failed = false) :
    a.client.poll n o pollWait
      = (.ok (Happening.called .poll reply).items, (a.meet (client n o) sink (.call .poll)).2.client) := by
  have hmeet : (a.meet (client n o) sink (.call .poll)).2.client = (a.client.poll n o pollWait).2 := rfl
  have hreply : (a.meet (client n o) sink (.call .poll)).1
      = .called .poll ⟨[], (a.client.poll n o pollWait).1.map .items⟩ := rfl
  rw [hreply] at told
  rw [hmeet]
  generalize a.client.poll n o pollWait = outcome at told ⊢
  obtain ⟨result, t⟩ := outcome
  cases told
  cases result with
  | error f => cases fine
  | ok items => rfl

/-- **A stretch of polls** that did not fail, and that brought no failure, brings what lies behind the positions. -/
theorem polls_bring {C : LogConsumer n} {ls : List Happening} {a : Sides (Transport ν)} (stage : AllAt .transfer ls)
    (told : a.history (client n o) sink (ls.map Happening.event) = ls) (fine : ∀ x ∈ ls, x.failed = false)
    (sound : ∀ topic p f, .failed topic p f ∉ itemsIn ls) :
    ∃ rs, Brings C o rs a.client (a.after (client n o) sink (ls.map Happening.event)).client (itemsIn ls) := by
  induction ls generalizing a with
  | nil => exact ⟨[], .refl a.client⟩
  | cons x rest ih =>
    obtain ⟨hone, hrest⟩ := List.cons.inj told
    obtain ⟨hx, hfine⟩ := List.forall_mem_cons.mp fine
    have hsound : ∀ topic p f, .failed topic p f ∉ x.items ++ itemsIn rest := sound
    obtain ⟨rs, hbrings⟩ := ih (fun y hy => stage y (List.mem_cons_of_mem _ hy)) hrest hfine
      fun topic p f hmem => hsound topic p f (List.mem_append_right _ hmem)
    have hstage := stage x List.mem_cons_self
    cases x with
    | called call reply =>
      cases call with
      | poll =>
        rcases poll_brings (C := C) (poll_happened hone hx) with ⟨topic, p, f, hfailed⟩ | ⟨qs, hnew, -⟩
        · refine absurd (List.mem_append_left _ ?_) (hsound topic p f)
          rw [hfailed]; exact List.mem_cons_self
        · exact ⟨qs ++ rs, hnew.trans hbrings⟩
      | _ => cases hstage
    | wrote bytes taken => exact ⟨rs, hbrings⟩
    | flushed taken => exact ⟨rs, hbrings⟩

/-- **The transfer of a run that read up to the ends** brings records and the end of every partition, and every
    record that it brings is read. -/
theorem transfer_brings {C : LogConsumer n} {rule : Rule} {ls : List Happening} {a : Sides (Transport ν)}
    (unlimited : rule.limit = none) (works : rule.Works) (stage : AllAt .transfer ls)
    (told : a.history (client n o) sink (ls.map Happening.event) = ls)
    (eof : rule.finish? [] (cuesIn ls) = some (.stopped "eof"))
    (final : ∃ init reply uses, ls = init ++ .called .poll reply :: uses ∧ SinkOnly uses
      ∧ rule.finish? [] (cuesIn init) = none ∧ ∀ h ∈ init, h.failed = false) :
    ∃ rs, Brings C o rs a.client (a.after (client n o) sink (ls.map Happening.event)).client (itemsIn ls)
      ∧ recordsIn (rule.taken [] (cuesIn ls)) = recordsIn (itemsIn ls) := by
  have hcalm : ∀ x ∈ ls, x.stops = [] := told ▸ stops_eq_nil _ a
  obtain ⟨init, reply, uses, rfl, honly, hgoes, hfine⟩ := final
  obtain ⟨hinit, hlast⟩ := Sides.history_append_inj told
  obtain ⟨hone, -⟩ := List.cons.inj hlast
  have huses : itemsIn uses = [] := by
    refine List.flatMap_eq_nil_iff.mpr fun x hx => ?_
    have hsink := honly x hx
    cases x with
    | called => cases hsink
    | wrote | flushed => rfl
  have hitems : itemsIn (init ++ .called .poll reply :: uses)
      = itemsIn init ++ (Happening.called .poll reply).items := by
    rw [itemsIn_append, itemsIn, itemsIn, List.flatMap_cons, ← itemsIn, ← itemsIn, huses, List.append_nil]
  have hbefore := (cuesIn_of_calm fun x hx => hcalm x (List.mem_append_left _ hx)).2
  rw [hbefore] at hgoes
  rw [(cuesIn_of_calm hcalm).2, hitems, List.map_append, Rule.finish?_append, hgoes, filterMap_item?,
    List.nil_append, Option.none_or] at eof
  -- The last poll did not fail: it brought the item that reading ended with.
  have hpoll : (Happening.called .poll reply).failed = false := by
    obtain ⟨is, result⟩ := reply
    cases result with
    | ok y => rfl
    | error f => cases eof
  obtain ⟨rs, hearlier⟩ := polls_bring (C := C) (fun x hx => stage x (List.mem_append_left _ hx)) hinit hfine
    fun topic p f hmem => by
      have hsome := rule.finish?_isSome_of_failed [] (List.mem_map_of_mem hmem)
      rw [hgoes] at hsome
      cases hsome
  rcases poll_brings (C := C) (poll_happened hone hpoll) with
    ⟨topic, p, f, hfailed⟩ | ⟨qs, hnew, records, ends, hshape, hnone⟩
  · rw [hfailed] at eof
    cases eof
  · refine ⟨rs ++ qs, ?_, ?_⟩
    · have hsame := honly.after_client (client n o) sink
        ((a.after (client n o) sink (init.map Happening.event)).meet (client n o) sink (.call .poll)).2
      rw [hitems, List.map_append, Sides.after_append, List.map_cons, Sides.after, Happening.event, hsame]
      exact hearlier.trans hnew
    · rw [(cuesIn_of_calm hcalm).2, hitems, List.map_append, Rule.taken_append, hgoes, filterMap_item?,
        Rule.taken_eq_of_finish?_eq_none hgoes, filterMap_item?, recordsIn_append, recordsIn_append, hshape]
      simp only [Option.isSome_none, Bool.false_eq_true, if_false, List.nil_append]
      rw [Rule.recordsIn_taken unlimited works _ hnone]

/-- **After the last poll** nothing is read any more. -/
theorem release_quietly (sink : Sink) {gs : List Happening} (closing : AllAt .closing gs) (reply : Reply Yield)
    (a : Sides (Transport ν)) : Quietly n a.client
      (a.after (client n o) sink ((gs ++ [Happening.called .stop reply]).map Happening.event)).client := by
  induction gs generalizing a with
  | nil => exact stop_quietly n a.client
  | cons x rest ih =>
    have hrest := ih fun y hy => closing y (List.mem_cons_of_mem _ hy)
    have hstage := closing x List.mem_cons_self
    match x with
    | .called (.closeStream topic p) _ =>
      exact (closeStream_quietly n topic p a.client).trans
        (hrest (a.meet (client n o) sink (.call (.closeStream topic p))).2)
    | .called .start _ | .called .stop _ | .called (.fetch ..) _ | .called (.openStream ..) _ | .called .poll _
    | .wrote .. | .flushed _ => cases hstage

end Transport

/-! ## Delivery -/

/-- **What is delivered** of some partitions with the requests `setup` before the first poll and `reading` up to the
    last one. Of each partition it is what the log holds from the position where the stream starts up to some
    offset, and every end that was told lies within. At least one was told. -/
structure Delivered (C : LogConsumer n) (o : TransportOptions) (topic : String) (start : Offset) (opened : List Int)
    (setup reading : List Request) (s₀ s₁ : ν) (records : List Record) : Prop where
  own : ∀ r ∈ records, r.topic = topic ∧ r.partition ∈ opened
  each : ∀ p ∈ opened, ∃ first last, Starts C ⟨topic, p⟩ start setup s₀ first
    ∧ C.position (n.after setup s₀) ⟨topic, p⟩ = first
    ∧ records.filter (·.place = ⟨topic, p⟩) = (C.log s₁ ⟨topic, p⟩).filter (Record.isBetween first last)
    ∧ (∃ e, Told n o ⟨topic, p⟩ reading (n.after setup s₀) e)
    ∧ ∀ e, Told n o ⟨topic, p⟩ reading (n.after setup s₀) e → e ≤ last

/-- Streams that are placed and polls that bring the end of each partition deliver. -/
theorem Transport.Brings.delivered {C : LogConsumer n} {topic : String} {start : Offset} {opened : List Int}
    {setup reading later : List Request} {t₀ t₁ t₂ : Transport ν} {items : List Item} {s₁ : ν}
    (h : Brings C o reading t₁ t₂ items) (placed : Placed C topic start opened setup t₀ t₁)
    (ended : ∀ p ∈ opened, p ∈ endsIn items) (growth : s₁ = n.after later t₂.network) :
    Delivered C o topic start opened setup reading t₀.network s₁ (recordsIn items) where
  own := fun r hr => (placed.streams r.place).mp (h.own r hr)
  each := by
    intro p hp
    have hopen : ⟨topic, p⟩ ∈ t₁.streams.map (·.1) := (placed.streams _).mpr ⟨rfl, hp⟩
    have hnetwork : n.after setup t₀.network = t₁.network := placed.asked.network.symm
    obtain ⟨item, hitem, hend⟩ := List.mem_filterMap.mp (List.mem_toFinset.mp (ended p hp))
    refine ⟨_, C.position t₂.network ⟨topic, p⟩, placed.starts _ hopen, by rw [hnetwork],
      h.records_later growth _, ?_, fun e htold => ?_⟩
    · rw [hnetwork]
      match item with
      | .ended topic' q offset =>
        cases hend
        obtain ⟨hmem, htold⟩ := h.told topic' p offset hitem
        obtain rfl : topic' = topic := ((placed.streams _).mp hmem).1
        exact htold
      | .record _ | .failed .. | .alien _ => cases hend
    · rw [hnetwork] at htold
      rw [h.asked.network]
      exact htold.le_position C h.reads

/-- The settings of a run up to the ends of all partitions of a topic. -/
def Settings.upToEnds (topic : String) : Settings := { Settings.usual topic with exitOnEnd := true }

/-- What a transport is set up with where nothing is asked for. -/
def TransportOptions.usual : TransportOptions := ⟨.usual, [], fun _ => .ok ()⟩

namespace Run

/-- What stopped a run that nobody stops from outside, where a failure is no such stop. -/
theorem stopped_of_standingWith {result : Except Failure Unit} {finish : Option Finish} {why : String}
    (h : standingWith result (Standing.running.after (finish.bind Finish.reason?)) = .stopped why)
    (other : why ≠ "error") : finish = some (.stopped why) := by
  match finish, result with
  | some (.stopped reason), .ok _ => cases h; rfl
  | some (.stopped reason), .error _ => cases h; rfl
  | none, .ok _ => cases h
  | some (.broken f), .ok _ => cases h
  | none, .error _ => cases h; exact absurd rfl other
  | some (.broken f), .error _ => cases h; exact absurd rfl other

/-- **A run that nobody stops**, and that is stopped because its partitions are at their end, has opened its
    streams, and reading ended with the last end that it takes. -/
theorem Goes.through_of_eof {σ : Type} {c : Client σ} {s : Settings} {start : Offset} {fuel : Nat}
    {hs : List Happening} {ending : Ending} {output : Output}
    (h : Goes c s start sink fuel .running hs ending (.stopped "eof") output) (calm : ∀ x ∈ hs, x.stops = []) :
    ∃ opened fs ls gs reply mid next result, hs = fs ++ ls ++ (gs ++ [.called .stop reply])
      ∧ Connected s start fs opened ∧ mid.standing = .running
      ∧ Transferred c (s.rule sink opened) fuel ls mid (some result, next) ∧ AllAt .closing gs
      ∧ (s.rule sink opened).finish? [] (cuesIn ls) = some (.stopped "eof") ∧ output = next.output := by
  generalize heof : Standing.stopped "eof" = standing at h
  cases h with
  | @thwarted hs gs reply thwarted =>
    have hnone : stopIn (hs ++ gs) = none :=
      (cuesIn_of_calm fun x hx => calm x (List.mem_append_left _ hx)).1
    rw [hnone, Standing.after_none, show Standing.running.stop "error" = .stopped "error" from rfl,
      Standing.after_stopped] at heof
    simp at heof
  | @through fs ls gs opened reply mid next result connected began transferred flushed closing closed =>
    obtain ⟨hcalmFront, hcalmBack⟩ := List.forall_mem_append.mp calm
    have hbegan : mid.standing = .running := by
      rw [began, (cuesIn_of_calm (List.forall_mem_append.mp hcalmFront).1).1]; rfl
    have hstanding : next.standing
        = Standing.running.after (((s.rule sink opened).finish? [] (cuesIn ls)).bind Finish.reason?) := by
      rw [← hbegan]; exact transferred.standing
    rw [(cuesIn_of_calm hcalmBack).1, Standing.after_none, hstanding] at heof
    have hfinish := stopped_of_standingWith heof.symm (by decide)
    exact ⟨opened, fs, ls, gs, reply, mid, next, result, rfl, connected, hbegan, transferred, closing, hfinish, rfl⟩

/-- **A run up to the ends delivers every record**: none is lost and none is written twice. Let the transport read
    from a consumer of growing logs, whatever it fetches at a time, whenever the logs grow and whatever is known of
    their ends, and let the sink take what it is given. If a run without a limit ends because its partitions are at
    their end, then what it asked is made up of three parts, of which only the second one reads, and what it has
    written are the records that are delivered with them, each rendered once. -/
theorem consume_delivers (C : LogConsumer n) (o : TransportOptions) (sink : Sink) (s : Settings) (k : Clock)
    (fuel : Nat) (network : ν) (j : Journal) (ending : Ending) (last : Run (Transport ν))
    (upToEnds : s.exitOnEnd = true) (unlimited : s.limit = none) (works : ∀ opened, (s.rule sink opened).Works)
    (returns : (opening (Transport.idle network) .running j).consume (Transport.client n o) sink s k fuel
      = (some ending, last))
    (eof : last.standing = .stopped "eof") :
    ∃ start opened setup reading closing records, starting s = .ok start
      ∧ Chosen s (last.told (Transport.client n o) sink (Transport.idle network)) opened
      ∧ last.client.requests.reverse = setup ++ reading ++ closing
      ∧ (∀ r ∈ setup ++ closing, r.reads = false) ∧ (∀ r ∈ reading, r.reads = true)
      ∧ last.output.bytes = records.flatMap s.layout.render
      ∧ Delivered C o s.topic start opened setup reading network last.client.network records := by
  rcases consume_goes returns with ⟨f, -, hrejected⟩ | ⟨start, hstart, hgoes, hleaves⟩
  · obtain ⟨_, j', hreject⟩ := reject_eq f (opening (Transport.idle network) .running j)
    rw [hreject] at hrejected
    cases hrejected
    cases eof
  have hhistory := hleaves.history
  have hsides := hleaves.sides
  have hcalm : ∀ x ∈ last.told (Transport.client n o) sink (Transport.idle network), x.stops = [] :=
    Transport.stops_eq_nil _ _
  rw [eof] at hgoes
  obtain ⟨opened, fs, ls, gs, reply, mid, next, result, hparts, hconnected, hbegan, htransferred, hclosing, hfinish,
    houtput⟩ := hgoes.through_of_eof hcalm
  rw [hparts] at hhistory hsides hcalm ⊢
  have hcues := (cuesIn_of_calm fun x hx =>
    hcalm x (List.mem_append_left _ (List.mem_append_right _ hx))).2
  -- The history is followed through the transport, part by part.
  obtain ⟨hfront, -⟩ := Sides.history_append_inj hhistory
  obtain ⟨hsetup, hreading⟩ := Sides.history_append_inj hfront
  obtain ⟨setup, hplaced⟩ := Transport.connected_placed C hconnected rfl hsetup
  obtain ⟨reading, hbrings, hrecords⟩ := Transport.transfer_brings (C := C) unlimited (works opened)
    htransferred.transfers.stage hreading hfinish (htransferred.final hbegan (by simp))
  obtain ⟨later, hlater, hquiet⟩ := Transport.release_quietly sink hclosing reply
    (Sides.after (Transport.client n o) sink ((fs ++ ls).map Happening.event)
      (opening (Transport.idle network) .running j).sides)
  rw [← Sides.after_append, ← List.map_append, hsides] at hlater
  rw [← Sides.after_append, ← List.map_append] at hbrings
  have hended : ∀ p ∈ opened, p ∈ endsIn (itemsIn ls) := by
    have hall := Rule.mem_endsIn_of_eof upToEnds hconnected.chosen.alone (fun x hx => ?_) hfinish
    · rw [hcues, filterMap_item?] at hall
      exact hall
    · rw [hcues] at hx
      obtain ⟨item, -, rfl⟩ := List.mem_map.mp hx
      rfl
  refine ⟨start, opened, setup, reading, later, recordsIn (itemsIn ls), hstart, ?_, ?_, ?_, hbrings.reads, ?_, ?_⟩
  · exact hconnected.chosen_of_parts htransferred.transfers.stage hclosing reply
  · have hasked := ((hplaced.asked.trans hbrings.asked).trans hlater).requests
    rw [show last.client.requests = _ from hasked]
    simp [opening, fresh, sides, Transport.idle]
  · exact List.forall_mem_append.mpr ⟨hplaced.quiet, hquiet⟩
  · rw [houtput, Output.bytes, htransferred.accepted fun _ => works opened, ← hrecords, Rule.output,
      List.reverse_reverse, List.flatMap]
    rfl
  · exact hbrings.delivered hplaced hended hlater.network

/-- A broker that brings two messages of a partition at a time. When the end of the first partition is told, the
    second one is still behind, and the message that the first one gets in the meantime is written as well. -/
theorem consume_delivers_of_broker :
    let outcome := (opening (Transport.idle Broker.pair) .running .empty).consume
      (Transport.client (Broker.network 2) .usual) .steady (.upToEnds "events") ⟨.zero false, .zero false⟩ 5
    outcome.2.standing = .stopped "eof"
      ∧ outcome.2.output.bytes = [0, 10, 1, 10, 0, 10, 1, 10, 2, 10, 2, 10, 3, 10]
      ∧ ∃ start opened setup reading records, outcome.2.output.bytes = records.flatMap Layout.usual.render
        ∧ Delivered (Broker.consumer 2) .usual "events" start opened setup reading Broker.pair
          outcome.2.client.network records := by
  intro outcome
  have hids : TopicMetadata.partitionsFor ⟨"events", true, none, [⟨1, none⟩, ⟨0, none⟩]⟩ "events" none
      = .ok [0, 1] := by
    refine partitionsFor_healthy rfl rfl (by simp) (by simp) "events" ?_
    simp [TopicMetadata.ascending, List.mergeSort, List.MergeSort.Internal.splitInTwo]
  have hrun : outcome.1.map Ending.code = some 0 ∧ outcome.2.standing = .stopped "eof"
      ∧ outcome.2.output.bytes = [0, 10, 1, 10, 0, 10, 1, 10, 2, 10, 2, 10, 3, 10] := by
    have hgoes : outcome = consumeFrom _ _ _ _ .earliest 5 _ := consume_eq rfl
    rw [hgoes]
    unfold consumeFrom body
    rw [connect_eq _ (eq_mk_of_fst rfl) usual_timed (eq_mk_of_fst (ok_of_toOption (by decide +kernel))) hids]
    decide +kernel
  obtain ⟨hcode, heof, hbytes⟩ := hrun
  obtain ⟨ending, hending, hzero⟩ := Option.map_eq_some_iff.mp hcode
  obtain rfl := Ending.eq_fine_of_code hzero
  obtain ⟨start, opened, setup, reading, -, records, -, -, -, -, -, hrecords, hdelivered⟩ :=
    consume_delivers (Broker.consumer 2) .usual .steady (.upToEnds "events") _ 5 Broker.pair .empty .fine outcome.2
      rfl rfl (fun _ _ _ => rfl) (eq_mk_of_fst hending) heof
  exact ⟨heof, hbytes, start, opened, setup, reading, records, hrecords, hdelivered⟩

end Run

end TopicReader
