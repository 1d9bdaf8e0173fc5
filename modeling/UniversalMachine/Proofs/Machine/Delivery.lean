import Mathlib
import UniversalMachine.Channel.Buffer
import UniversalMachine.Channel.Console
import UniversalMachine.Proofs.Machine.ChannelMap
import UniversalMachine.Proofs.Machine.Requests

/-!
Output that a console holds back. A byte is sent when it is written, whether it has been
delivered since or is still pending; to deliver changes nothing of what was sent. So a machine
does not notice what its console holds back as long as no delivery that it waits for is refused:
it does what it does on a console that delivers every byte at once to a device that takes it, and
that console in turn does what a buffer in memory does.
-/

namespace UniversalMachine

namespace Console

/-- All output so far, delivered or pending. -/
def sent (c : Console) : Array UInt8 :=
  c.delivered ++ c.pending

/-- The console that has delivered all of it, to a device that takes every byte at once. -/
def unbuffered (c : Console) : Console :=
  { source := c.source, flushEachOutput := true, delivered := c.sent }

/-- The console that does what a buffer in memory does. -/
def ofBuffer (b : Buffer) : Console :=
  { source := .bytes b.input, flushEachOutput := true, delivered := b.output }

/-! ### Requests to a console -/

theorem deliver_snd_of_refusing {c : Console} {reason : String}
    (refusing : c.device = .refusing reason) : c.deliver.2 = c := by
  by_cases empty : c.pending = #[]
  · rw [deliver_of_empty empty]
  · rw [deliver_of_refusing refusing empty]

theorem unbuffered_deliver (c : Console) : c.deliver.2.unbuffered = c.unbuffered := by
  cases device : c.device with
  | accepting => simp only [deliver_of_accepting device, unbuffered, sent, Array.append_empty]
  | refusing reason => rw [deliver_snd_of_refusing device]

theorem sent_deliver (c : Console) : c.deliver.2.sent = c.sent :=
  congrArg Console.delivered c.unbuffered_deliver

theorem close_of_accepting {c : Console} (accepting : c.device = .accepting) :
    c.close = c.sent := by
  rw [close, deliver_of_accepting accepting, sent]

theorem makeRoom_cases (c : Console) : c.makeRoom = (.ok (), c) ∨ c.makeRoom = c.deliver := by
  rw [makeRoom]
  split
  · exact .inl rfl
  · exact .inr rfl

theorem unbuffered_makeRoom (c : Console) : c.makeRoom.2.unbuffered = c.unbuffered := by
  obtain kept | delivered := c.makeRoom_cases
  · rw [kept]
  · rw [delivered, unbuffered_deliver]

theorem room_of_accepting {c : Console} (accepting : c.device = .accepting) :
    ∃ c', c.makeRoom = (.ok (), c') ∧ c'.device = .accepting := by
  obtain kept | delivered := c.makeRoom_cases
  · exact ⟨c, kept, accepting⟩
  · rw [deliver_of_accepting accepting] at delivered
    exact ⟨_, delivered, accepting⟩

theorem deliver_unbuffered (c : Console) : c.unbuffered.deliver = (.ok (), c.unbuffered) :=
  deliver_of_empty rfl

/-- The console with one more byte to deliver. -/
def hold (c : Console) (byte : UInt8) : Console :=
  { c with pending := c.pending.push byte }

theorem unbuffered_hold (c : Console) (byte : UInt8) :
    (c.hold byte).unbuffered = { c.unbuffered with delivered := c.sent.push byte } := by
  simp only [hold, unbuffered, sent, Array.append_push]

theorem write_of_room {c c' : Console} (room : c.makeRoom = (.ok (), c')) (byte : UInt8) :
    c.write byte =
      if c'.flushEachOutput then (c'.hold byte).deliver else (.ok (), c'.hold byte) := by
  rw [write, room]
  rfl

theorem write_of_noRoom {c c' : Console} {reason : String}
    (noRoom : c.makeRoom = (.error reason, c')) (byte : UInt8) :
    c.write byte = (.error reason, c') := by
  rw [write, noRoom]

/-- A byte that is written is sent if there is room for it, even if its delivery is refused. -/
theorem unbuffered_write {c c' : Console} (room : c.makeRoom = (.ok (), c')) (byte : UInt8) :
    (c.write byte).2.unbuffered = { c.unbuffered with delivered := c.sent.push byte } := by
  have same := c.unbuffered_makeRoom
  rw [room] at same
  have held : (c'.hold byte).unbuffered = { c.unbuffered with delivered := c.sent.push byte } := by
    rw [unbuffered_hold]
    exact congrArg (fun c : Console => { c with delivered := c.delivered.push byte }) same
  rw [write_of_room room]
  split
  · rw [unbuffered_deliver, held]
  · exact held

theorem write_unbuffered {c : Console} {byte : UInt8} (taken : (c.write byte).1 = .ok ()) :
    c.unbuffered.write byte = Prod.map id unbuffered (c.write byte) := by
  cases made : c.makeRoom with
  | mk answer c' =>
      cases answer with
      | ok => exact Prod.ext taken.symm (unbuffered_write made byte).symm
      | error reason =>
          rw [write_of_noRoom made] at taken
          cases taken

theorem write_of_accepting {c : Console} (accepting : c.device = .accepting) (byte : UInt8) :
    (c.write byte).1 = .ok () ∧ (c.write byte).2.sent = c.sent.push byte := by
  obtain ⟨c', room, accepting'⟩ := room_of_accepting accepting
  refine ⟨?_, congrArg Console.delivered (unbuffered_write room byte)⟩
  have delivered := deliver_of_accepting (c := c'.hold byte) accepting'
  rw [write_of_room room, delivered]
  split <;> rfl

/-- What a console reads if it does not have to deliver anything. -/
def take (c : Console) : Except String (Option UInt8) × Console :=
  match c.source with
  | .broken reason => (.error reason, c)
  | .bytes [] => (.ok none, c)
  | .bytes (byte :: rest) => (.ok (some byte), { c with source := .bytes rest })

theorem take_snd (c : Console) : ∃ source, c.take.2 = { c with source } := by
  rw [take]
  split <;> exact ⟨_, rfl⟩

theorem take_unbuffered (c : Console) : c.unbuffered.take = Prod.map id unbuffered c.take := by
  obtain ⟨source, device, flushEachOutput, pending, delivered⟩ := c
  match source with
  | .broken reason => rfl
  | .bytes [] => rfl
  | .bytes (byte :: rest) => rfl

theorem read_of_delivered {c c' : Console} (delivered : c.deliver = (.ok (), c')) :
    c.read = c'.take := by
  rw [read, delivered]
  rfl

theorem read_unbuffered {c : Console} (delivered : c.deliver.1 = .ok ()) :
    c.unbuffered.read = Prod.map id unbuffered c.read := by
  have same := c.unbuffered_deliver
  obtain ⟨c', done⟩ : ∃ c', c.deliver = (.ok (), c') := ⟨_, Prod.ext delivered rfl⟩
  rw [done] at same
  rw [read_of_delivered c.deliver_unbuffered, read_of_delivered done, ← same, take_unbuffered]

theorem read_of_refused {c c' : Console} {reason : String}
    (refused : c.deliver = (.error reason, c')) : c.read = (.error reason, c') := by
  rw [read, refused]

theorem sent_read (c : Console) : c.read.2.sent = c.sent := by
  have same := c.sent_deliver
  cases delivered : c.deliver with
  | mk answer c' =>
      rw [delivered] at same
      cases answer with
      | error reason => rwa [read_of_refused delivered]
      | ok =>
          obtain ⟨rest, left⟩ := c'.take_snd
          rw [read_of_delivered delivered, left]
          exact same

end Console

namespace Machine

open Console (unbuffered ofBuffer)

@[simp] theorem sends_mapChannel {χ ω : Type} (f : χ → ω) (m : Machine χ) :
    (m.mapChannel f).sends = m.sends := rfl

@[simp] theorem receives_mapChannel {χ ω : Type} (f : χ → ω) (m : Machine χ) :
    (m.mapChannel f).receives = m.receives := rfl

/-! ### Machines that do not notice -/

/-- A machine does not notice what its console holds back if the console takes the byte that is
to be written and makes the delivery that is to be waited for. -/
theorem carries_unbuffered {m : Machine Console}
    (takes : m.sends = true → ∀ byte, (m.channel.write byte).1 = .ok ())
    (delivers : m.receives = true ∨ m.next? = some .halt → m.channel.deliver.1 = .ok ()) :
    Carries unbuffered m where
  write o next small :=
    Console.write_unbuffered (takes (sends_eq_true_iff.mpr ⟨o, next, small⟩) _)
  read input := Console.read_unbuffered (delivers (.inl (decide_eq_true input)))
  halt next := (delivers (.inr next)).symm
  flush c _ := c.unbuffered_deliver.symm

theorem carries_ofBuffer (m : Machine Buffer) : Carries ofBuffer m where
  write _ _ _ := rfl
  read _ := by
    obtain ⟨input, output⟩ := m.channel
    cases input <;> rfl
  halt _ := rfl
  flush _ _ := rfl

/-- What a delivery, a byte that is held and another source leave alone is kept by every request
to a console. -/
theorem keeps_of_console {P : Console → Prop} (deliver : ∀ c, P c → P c.deliver.2)
    (hold : ∀ c byte, P c → P (c.hold byte)) (source : ∀ c source, P c → P { c with source }) :
    Keeps P where
  write c byte holds := by
    change P (c.write byte).2
    have holds' : P c.makeRoom.2 := by
      obtain kept | delivered := c.makeRoom_cases
      · rwa [kept]
      · rw [delivered]
        exact deliver c holds
    cases made : c.makeRoom with
    | mk answer c' =>
        rw [made] at holds'
        cases answer with
        | error reason => rwa [Console.write_of_noRoom made]
        | ok =>
            rw [Console.write_of_room made]
            split
            · exact deliver _ (hold _ _ holds')
            · exact hold _ _ holds'
  read c holds := by
    change P c.read.2
    have holds' := deliver c holds
    cases delivered : c.deliver with
    | mk answer c' =>
        rw [delivered] at holds'
        cases answer with
        | error reason => rwa [Console.read_of_refused delivered]
        | ok =>
            obtain ⟨rest, left⟩ := c'.take_snd
            rw [Console.read_of_delivered delivered, left]
            exact source c' rest holds'
  flush := deliver

/-! ### A device that takes every byte -/

theorem keeps_accepting : Keeps fun c : Console => c.device = .accepting :=
  keeps_of_console
    (fun _ accepting => by
      rw [Console.deliver_of_accepting accepting]
      exact accepting)
    (fun _ _ => id) fun _ _ => id

/-- On such a device every byte that is written is sent. -/
theorem counts_sent : Counts (fun c : Console => c.device = .accepting) (·.sent.size) 1 0 where
  write _ byte accepting :=
    (congrArg Array.size (Console.write_of_accepting accepting byte).2).trans (Array.size_push ..)
  read c _ := congrArg Array.size c.sent_read

section
variable {m : Machine Console} (accepting : m.channel.device = .accepting)
include accepting

theorem carries_of_accepting : Carries unbuffered m :=
  carries_unbuffered (fun _ byte => (Console.write_of_accepting accepting byte).1)
    fun _ => congrArg Prod.fst (Console.deliver_of_accepting accepting)

theorem size_sent_iterate (n : ℕ) :
    (stepped^[n] m).channel.sent.size =
      m.channel.sent.size + n.count fun k => (stepped^[k] m).sends := by
  have counted := counts_sent.iterate accepting keeps_accepting
    (fun c _ => congrArg Array.size c.sent_deliver) n
  rwa [Nat.one_mul, Nat.zero_mul, Nat.add_zero] at counted

theorem size_sent_iterate_le {k n : ℕ} (le : k ≤ n) :
    (stepped^[k] m).channel.sent.size ≤ (stepped^[n] m).channel.sent.size := by
  rw [size_sent_iterate accepting, size_sent_iterate accepting]
  exact Nat.add_le_add_left (Nat.count_monotone _ le) _

theorem sent_iterate_ne_empty_iff (fresh : m.channel.sent = #[]) {n : ℕ} :
    (stepped^[n] m).channel.sent ≠ #[] ↔ ∃ k < n, (stepped^[k] m).sends = true := by
  rw [Ne, ← Array.size_eq_zero_iff, size_sent_iterate accepting, fresh]
  simp only [Array.size_empty, Nat.zero_add, ← Nat.count_ne_iff_exists]

end

end Machine

end UniversalMachine
