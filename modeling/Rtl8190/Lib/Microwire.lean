import Mathlib.Data.BitVec
import Mathlib.Data.List.Basic

/-!
# Serial memories on three wires

A chip holds words of 16 bits. The host selects it, clocks an instruction into it bit by bit, and clocks
the answer out again. What a chip does is said for the three things that it takes notice of: being
selected, a rising clock while it is selected, and being released.
-/

namespace Rtl8190.Microwire

/-- The levels that the host puts on the wires. -/
structure Pins where
  cs : Bool
  ck : Bool
  di : Bool
  deriving DecidableEq, Repr

inductive Event where
  | select
  | rise (di : Bool)
  | release
  deriving DecidableEq, Repr

/-- What the chip notices when the levels change from `p` to `q`. -/
def Pins.event (p q : Pins) : Option Event :=
  if q.cs = false then
    if p.cs = true then some .release else none
  else if p.cs = false then some .select
  else if p.ck = false ∧ q.ck = true then some (.rise q.di)
  else none

/-- How far the chip is with an instruction. -/
inductive Phase (n : Nat) where
  /-- Not selected -/
  | standby
  /-- Selected, and no start bit yet -/
  | ready
  /-- The bits after the start bit -/
  | command (bits : List Bool)
  /-- Reading the word at `a`, after `k` clocks -/
  | data (a : BitVec n) (k : Nat)
  /-- Any other instruction -/
  | other
  deriving DecidableEq, Repr

def address (n : Nat) (bs : List Bool) : BitVec n := bs.foldl BitVec.shiftConcat 0

/-- The instruction `10` reads the word at the address behind it. -/
def decode (n : Nat) : List Bool → Phase n
  | bits@(b :: c :: as) =>
    if as.length < n then .command bits
    else if b = true ∧ c = false then .data (address n as) 0
    else .other
  | bits => .command bits

namespace Phase

variable {n : Nat}

def next (b : Bool) : Phase n → Phase n
  | standby => standby
  | ready => if b = true then .command [] else ready
  | command bits => decode n (bits ++ [b])
  | data a k => .data a (k + 1)
  | other => other

/-- The data sheet says what the next clock does. -/
def Clocked : Phase n → Prop
  | standby => False
  | ready => True
  | command _ => True
  | data _ k => k < 16
  | other => False

end Phase

/-- A chip with addresses of `n` bits, and what its data sheet promises. After the last bit of an
address it puts out a zero, and from then on the word, the highest bit first. What it puts out at other
times, and what other instructions do, is left open. -/
structure Chip (n : Nat) where
  State : Type
  react : State → Event → State
  out : State → Bool
  word : State → BitVec n → BitVec 16
  phase : State → Phase n
  phase_release : ∀ s, phase (react s .release) = .standby
  phase_select : ∀ s, phase s = .standby → phase (react s .select) = .ready
  phase_rise : ∀ s b, (phase s).Clocked → phase (react s (.rise b)) = (phase s).next b
  word_react : ∀ s e, phase s ≠ .other → word (react s e) = word s
  out_data : ∀ s a k, phase s = .data a k → 0 < k → k ≤ 16 → out s = (word s a).getLsbD (16 - k)

/-! ## Addresses -/

theorem getLsbD_foldl_shiftConcat {n : Nat} (bs : List Bool) (x : BitVec n) {i : Nat} (hi : i < n) :
    (bs.foldl BitVec.shiftConcat x).getLsbD i =
      if i < bs.length then bs.getD (bs.length - 1 - i) false else x.getLsbD (i - bs.length) := by
  induction bs generalizing x with
  | nil => simp
  | cons b bs ih =>
    rw [List.foldl_cons, ih]
    simp only [List.length_cons]
    by_cases hlt : i < bs.length
    · rw [if_pos hlt, if_pos (by omega), show bs.length + 1 - 1 - i = bs.length - 1 - i + 1 by omega]
      rfl
    · rw [if_neg hlt, BitVec.getLsbD_shiftConcat]
      by_cases heq : i = bs.length
      · subst heq
        simp
        omega
      · rw [if_neg (show ¬ i < bs.length + 1 by omega), show i - (bs.length + 1) = i - bs.length - 1 by omega]
        simp only [show ¬ i - bs.length = 0 by omega, show i - bs.length < n by omega, if_false,
          decide_true, Bool.true_and]

def bitsOf {n : Nat} (a : BitVec n) : List Bool := (List.range n).map fun i => a.getLsbD (n - 1 - i)

@[simp] theorem length_bitsOf {n : Nat} (a : BitVec n) : (bitsOf a).length = n := by
  simp [bitsOf]

@[simp] theorem address_bitsOf {n : Nat} (a : BitVec n) : address n (bitsOf a) = a := by
  apply BitVec.eq_of_getLsbD_eq
  intro i hi
  rw [address, getLsbD_foldl_shiftConcat _ _ hi, length_bitsOf, if_pos hi]
  have hlt : n - 1 - i < n := by omega
  simp [bitsOf, hlt, show n - 1 - (n - 1 - i) = i by omega]

/-! ## Instructions -/

theorem decode_short {n : Nat} {bits : List Bool} (h : bits.length < n + 2) :
    decode n bits = .command bits := by
  match bits with
  | [] => rfl
  | [b] => rfl
  | b :: c :: as =>
    simp only [List.length_cons] at h
    simp only [decode]
    rw [if_pos (by omega)]

theorem decode_read {n : Nat} (a : BitVec n) : decode n (true :: false :: bitsOf a) = .data a 0 := by
  simp [decode]

namespace Chip

variable {n : Nat} {C : Chip n} {s : C.State}

/-- The chip after the clocks that bring the bits. -/
def clocks (C : Chip n) (s : C.State) (bs : List Bool) : C.State :=
  bs.foldl (fun s b => C.react s (.rise b)) s

@[simp] theorem clocks_nil : C.clocks s [] = s := rfl

@[simp] theorem clocks_cons (b : Bool) (bs : List Bool) :
    C.clocks s (b :: bs) = C.clocks (C.react s (.rise b)) bs := rfl

theorem clocks_append (bs cs : List Bool) : C.clocks s (bs ++ cs) = C.clocks (C.clocks s bs) cs :=
  List.foldl_append

theorem word_rise (h : (C.phase s).Clocked) (b : Bool) : C.word (C.react s (.rise b)) = C.word s := by
  apply C.word_react
  intro hother
  rw [hother] at h
  exact h

theorem clocks_command {bits bs : List Bool} (h : C.phase s = .command bits)
    (hlen : bits.length + bs.length < n + 2) :
    C.phase (C.clocks s bs) = .command (bits ++ bs) ∧ C.word (C.clocks s bs) = C.word s := by
  -- Bits of an instruction that is not complete with them.
  induction bs generalizing s bits with
  | nil => simpa using h
  | cons b bs ih =>
    have hclocked : (C.phase s).Clocked := by
      rw [h]
      trivial
    simp only [List.length_cons] at hlen
    have hphase : C.phase (C.react s (.rise b)) = .command (bits ++ [b]) := by
      rw [C.phase_rise s b hclocked, h]
      exact decode_short (by simp; omega)
    obtain ⟨hrest, hword⟩ := ih hphase (by simp; omega)
    rw [List.append_cons]
    exact ⟨hrest, hword.trans (word_rise hclocked b)⟩

theorem clocks_read (h : C.phase s = .ready) (a : BitVec n) :
    C.phase (C.clocks s (true :: true :: false :: bitsOf a)) = .data a 0 ∧
      C.word (C.clocks s (true :: true :: false :: bitsOf a)) = C.word s := by
  -- A whole instruction, from the start bit on.
  have hready : (C.phase s).Clocked := by
    rw [h]
    trivial
  have hstart : C.phase (C.react s (.rise true)) = .command [] := by
    rw [C.phase_rise s true hready, h]
    rfl
  obtain ⟨bs, b, hbs⟩ := List.eq_nil_or_concat (true :: false :: bitsOf a) |>.resolve_left (by simp)
  have hlen : bs.length + 1 = n + 2 := by
    have := congrArg List.length hbs
    simpa using this.symm
  obtain ⟨hphase, hword⟩ := clocks_command hstart (by simp; omega : List.length [] + bs.length < n + 2)
  have hclocked : (C.phase (C.clocks (C.react s (.rise true)) bs)).Clocked := by
    rw [hphase]
    trivial
  rw [clocks_cons, hbs, List.concat_eq_append, clocks_append]
  constructor
  · rw [clocks_cons, clocks_nil, C.phase_rise _ b hclocked, hphase, ← decode_read a, hbs]
    simp [Phase.next]
  · rw [clocks_cons, clocks_nil, word_rise hclocked, hword, word_rise hready]

theorem clocks_data {a : BitVec n} {k : Nat} (h : C.phase s = .data a k) {bs : List Bool}
    (hlen : k + bs.length ≤ 16) :
    C.phase (C.clocks s bs) = .data a (k + bs.length) ∧ C.word (C.clocks s bs) = C.word s := by
  -- The clocks that bring the word out.
  induction bs generalizing s k with
  | nil => simpa using h
  | cons b bs ih =>
    simp only [List.length_cons] at hlen
    have hclocked : (C.phase s).Clocked := by
      rw [h]
      show k < 16
      omega
    have hphase : C.phase (C.react s (.rise b)) = .data a (k + 1) := by
      rw [C.phase_rise s b hclocked, h]
      rfl
    obtain ⟨hrest, hword⟩ := ih hphase (by omega)
    rw [List.length_cons, clocks_cons, show k + (bs.length + 1) = k + 1 + bs.length by omega]
    exact ⟨hrest, hword.trans (word_rise hclocked b)⟩

end Chip

/-! ## A chip -/

/-- A chip that ignores the other instructions and puts out `pull` when it is not reading. -/
def plain (n : Nat) (pull : Bool) : Chip n where
  State := Phase n × (BitVec n → BitVec 16)
  react s
    | .select => (.ready, s.2)
    | .rise b => (s.1.next b, s.2)
    | .release => (.standby, s.2)
  out s := match s.1 with
    | .data a k => (s.2 a).getLsbD (16 - k)
    | _ => pull
  word s := s.2
  phase s := s.1
  phase_release _ := rfl
  phase_select _ _ := rfl
  phase_rise _ _ _ := rfl
  word_react s e _ := by cases e <;> rfl
  out_data s a k h _ _ := by rw [h]

/-! ## Programs -/

inductive Program (α : Type) where
  | ret (a : α)
  | read (addr : BitVec 32) (k : BitVec 32 → Program α)

namespace Program

variable {α β σ : Type}

def bind : Program α → (α → Program β) → Program β
  | ret a, f => f a
  | read addr k, f => read addr fun v => (k v).bind f

instance : Monad Program where
  pure := ret
  bind := bind

def eval (image : BitVec 32 → BitVec 32) : Program α → α
  | ret a => a
  | read addr k => (k (image addr)).eval image

def addresses (image : BitVec 32 → BitVec 32) : Program α → List (BitVec 32)
  | ret _ => []
  | read addr k => addr :: (k (image addr)).addresses image

def exec (rd : σ → BitVec 32 → σ × BitVec 32) (s : σ) : Program α → σ × α
  | ret a => (s, a)
  | read addr k => (k (rd s addr).2).exec rd (rd s addr).1

section

variable (image : BitVec 32 → BitVec 32)

@[simp] theorem eval_pure (a : α) : (pure a : Program α).eval image = a := rfl

@[simp] theorem eval_bind (p : Program α) (f : α → Program β) :
    (p >>= f).eval image = (f (p.eval image)).eval image := by
  induction p with
  | ret a => rfl
  | read addr k ih => exact ih (image addr)

@[simp] theorem addresses_pure (a : α) : (pure a : Program α).addresses image = [] := rfl

@[simp] theorem addresses_bind (p : Program α) (f : α → Program β) :
    (p >>= f).addresses image = p.addresses image ++ (f (p.eval image)).addresses image := by
  induction p with
  | ret a => rfl
  | read addr k ih =>
    show addr :: (k (image addr) >>= f).addresses image = _
    rw [ih (image addr)]
    rfl

end

/-- On a device whose reads give the image and keep `I`, a program computes what it computes on the
image. -/
theorem exec_eq {rd : σ → BitVec 32 → σ × BitVec 32} {image : BitVec 32 → BitVec 32} {I : σ → Prop}
    (hrd : ∀ s, I s → ∀ addr, I (rd s addr).1 ∧ (rd s addr).2 = image addr) {s : σ} (hs : I s)
    (p : Program α) : I (p.exec rd s).1 ∧ (p.exec rd s).2 = p.eval image := by
  induction p generalizing s with
  | ret a => exact ⟨hs, rfl⟩
  | read addr k ih =>
    obtain ⟨hI, hval⟩ := hrd s hs addr
    rw [exec, eval, ← hval]
    exact ih _ hI

end Program

end Rtl8190.Microwire
