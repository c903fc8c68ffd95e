import Mathlib.Logic.Function.Basic
import TopicReader.Journal.Basic

/-!
# `Proofs.Journal.Bracketing` — programs that move the position of the log

The position that log records carry is set, cleared, and set for as long as a block takes. A block has a holder: when
it is entered, the holder is given the position that was there, and when it is left, by itself or by a failure, the
position is what the holder has then. Blocks may lie in each other and everything between them may move the position
too, so whether a block brings back what was before depends on what is done with its holder in the meantime. Here it is
shown that every block does, if no block uses the holder of one that it lies in.

## Contents
- **Programs.** `Position.Program`, what it works on (`Position.Scene`), and what it comes to (`Position.Program.exec`).
- **Holders.** `Position.Program.OwnHolders`, and that it holds where every block has a holder of its own
  (`Position.Program.OwnHolders.of_nodup`).
- **Blocks.** `Position.Program.exec_held`: a holder that is not named keeps what it has;
  `Position.Program.exec_within_position` for one block and `Position.Program.exec_balanced` for all of a program.
-/

namespace TopicReader.Position

/-! ## Programs -/

/-- A program that moves the position of the log: it sets what is given, clears everything, fails, does one thing after
    the other, does another thing after a failure, or does something within a block that sets what is given. -/
inductive Program where
  | give (topic : Option String) (partition offset : Option Int)
  | clear
  | raise (f : Failure)
  | follow (first second : Program)
  | rescue (body handler : Program)
  | within (holder : Nat) (topic : Option String) (partition offset : Option Int) (body : Program)

/-- The position before a block and the one after it. -/
structure Passage where
  before : Position
  after : Position

/-- What programs work on: the position, what each holder has, and the blocks that were left, the latest first. -/
structure Scene where
  position : Position
  held : Nat → Position
  passages : List Passage

namespace Scene

/-- A block is entered: its holder is given the position, and then what is given is set. -/
def enter (s : Scene) (holder : Nat) (topic : Option String) (partition offset : Option Int) : Scene :=
  { s with
    position := s.position.enter topic partition offset
    held := Function.update s.held holder s.position }

/-- A block is left: the position is what its holder has. -/
def leave (s : Scene) (holder : Nat) (before : Position) : Scene :=
  let after := s.position.leave (s.held holder)
  { s with position := after, passages := ⟨before, after⟩ :: s.passages }

/-- Every block that was left has brought back what was before. -/
def Balanced (s : Scene) : Prop := ∀ p ∈ s.passages, p.after = p.before

end Scene

namespace Program

/-- What a program comes to. A block is left whether or not its body fails, and the failure goes on. -/
def exec : Program → Scene → Except Failure Unit × Scene
  | give topic partition offset, s => (.ok (), { s with position := s.position.enter topic partition offset })
  | clear, s => (.ok (), { s with position := .empty })
  | raise f, s => (.error f, s)
  | follow first second, s =>
    match first.exec s with
    | (.ok (), s) => second.exec s
    | (.error f, s) => (.error f, s)
  | rescue body handler, s =>
    match body.exec s with
    | (.ok (), s) => (.ok (), s)
    | (.error _, s) => handler.exec s
  | within holder topic partition offset body, s =>
    let (result, inner) := body.exec (s.enter holder topic partition offset)
    (result, inner.leave holder s.position)

/-! ## Holders -/

/-- The holders of the blocks of a program. -/
def holders : Program → List Nat
  | give .. | clear | raise _ => []
  | follow first second => first.holders ++ second.holders
  | rescue body handler => body.holders ++ handler.holders
  | within holder _ _ _ body => holder :: body.holders

/-- **Blocks have holders of their own**: no block uses the holder of one that it lies in. -/
def OwnHolders : Program → Prop
  | give .. | clear | raise _ => True
  | follow first second => first.OwnHolders ∧ second.OwnHolders
  | rescue body handler => body.OwnHolders ∧ handler.OwnHolders
  | within holder _ _ _ body => holder ∉ body.holders ∧ body.OwnHolders

/-- Where no two blocks share a holder, none uses that of one around it. -/
theorem OwnHolders.of_nodup {p : Program} (distinct : p.holders.Nodup) : p.OwnHolders := by
  induction p with
  | give | clear | raise => trivial
  | follow first second ihfirst ihsecond =>
    obtain ⟨hfirst, hsecond, -⟩ := List.nodup_append.mp distinct
    exact ⟨ihfirst hfirst, ihsecond hsecond⟩
  | rescue body handler ihbody ihhandler =>
    obtain ⟨hbody, hhandler, -⟩ := List.nodup_append.mp distinct
    exact ⟨ihbody hbody, ihhandler hhandler⟩
  | within holder topic partition offset body ih =>
    obtain ⟨hown, hbody⟩ := List.nodup_cons.mp distinct
    exact ⟨hown, ih hbody⟩

/-! ## Blocks -/

/-- One thing after the other ends where the first ended, or where the second did from there. -/
theorem exec_follow_scene (first second : Program) (s : Scene) :
    ((follow first second).exec s).2 = (first.exec s).2
      ∨ ((follow first second).exec s).2 = (second.exec (first.exec s).2).2 := by
  rw [exec]
  cases first.exec s with
  | mk result next =>
    cases result with
    | ok u => exact .inr rfl
    | error f => exact .inl rfl

/-- So does what is done after a failure. -/
theorem exec_rescue_scene (body handler : Program) (s : Scene) :
    ((rescue body handler).exec s).2 = (body.exec s).2
      ∨ ((rescue body handler).exec s).2 = (handler.exec (body.exec s).2).2 := by
  rw [exec]
  cases body.exec s with
  | mk result next =>
    cases result with
    | ok u => exact .inl rfl
    | error f => exact .inr rfl

theorem exec_within_scene (holder : Nat) (topic : Option String) (partition offset : Option Int) (body : Program)
    (s : Scene) :
    ((within holder topic partition offset body).exec s).2
      = (body.exec (s.enter holder topic partition offset)).2.leave holder s.position := rfl

/-- **A holder that a program does not name** has what it had before. -/
theorem exec_held {p : Program} {holder : Nat} (unnamed : holder ∉ p.holders) (s : Scene) :
    (p.exec s).2.held holder = s.held holder := by
  induction p generalizing s with
  | give | clear | raise => rfl
  | follow first second ihfirst ihsecond =>
    obtain ⟨hfirst, hsecond⟩ := not_or.mp (mt List.mem_append.mpr unnamed)
    rcases exec_follow_scene first second s with h | h
    · rw [h, ihfirst hfirst]
    · rw [h, ihsecond hsecond, ihfirst hfirst]
  | rescue body handler ihbody ihhandler =>
    obtain ⟨hbody, hhandler⟩ := not_or.mp (mt List.mem_append.mpr unnamed)
    rcases exec_rescue_scene body handler s with h | h
    · rw [h, ihbody hbody]
    · rw [h, ihhandler hhandler, ihbody hbody]
  | within other topic partition offset body ih =>
    obtain ⟨hne, hbody⟩ := not_or.mp (mt List.mem_cons.mpr unnamed)
    -- Only entering the block gives anything to a holder, and that is another one.
    rw [exec_within_scene]
    exact (ih hbody _).trans (Function.update_of_ne hne _ _)

/-- **A block brings back** the position that was there when it was entered, if nothing in it uses its holder. -/
theorem exec_within_position {holder : Nat} {body : Program} (unnamed : holder ∉ body.holders)
    (topic : Option String) (partition offset : Option Int) (s : Scene) :
    ((within holder topic partition offset body).exec s).2.position = s.position := by
  rw [exec_within_scene]
  show (body.exec (s.enter holder topic partition offset)).2.held holder = s.position
  rw [exec_held unnamed]
  exact Function.update_self ..

/-- **All blocks of a program** bring back what was before, whichever way they are left. -/
theorem exec_balanced {p : Program} (own : p.OwnHolders) {s : Scene} (balanced : s.Balanced) :
    (p.exec s).2.Balanced := by
  induction p generalizing s with
  | give | clear | raise => exact balanced
  | follow first second ihfirst ihsecond =>
    obtain ⟨hfirst, hsecond⟩ := own
    rcases exec_follow_scene first second s with h | h
    · rw [h]
      exact ihfirst hfirst balanced
    · rw [h]
      exact ihsecond hsecond (ihfirst hfirst balanced)
  | rescue body handler ihbody ihhandler =>
    obtain ⟨hbody, hhandler⟩ := own
    rcases exec_rescue_scene body handler s with h | h
    · rw [h]
      exact ihbody hbody balanced
    · rw [h]
      exact ihhandler hhandler (ihbody hbody balanced)
  | within holder topic partition offset body ih =>
    obtain ⟨hown, hbody⟩ := own
    -- The blocks within are left first, so the block itself is the latest one.
    have hposition := exec_within_position hown topic partition offset s
    have hinner : (body.exec (s.enter holder topic partition offset)).2.Balanced := ih hbody balanced
    rw [exec_within_scene] at hposition ⊢
    exact List.forall_mem_cons.mpr ⟨hposition, hinner⟩

/-- A block within itself: the inner one takes the holder away from the outer one, whose position stays behind. -/
example :
    ((within 0 (some "outer") none none (within 0 (some "inner") none none (give none none none))).exec
      ⟨.empty, fun _ => .empty, []⟩).2.position = ⟨"outer", -1, -1⟩ := by decide

end Program

end TopicReader.Position
