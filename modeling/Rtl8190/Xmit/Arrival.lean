import Rtl8190.Xmit.Link

/-!
# The fragments of a frame, one after the other

The loop of `rtllib_xmit_inter` against the calls of `rtllib_rx`: what the receiver has cached is
what the loop has sent so far, with the MIC of TKIP behind each fragment.
-/

open Rtl8190.Memory Rtl8190.Crypt Function

namespace Rtl8190.Xmit

variable {ι : Type}

def rxRun {κ : Type} [DecidableEq ι] (cfg : Rx.Config κ) (r : Rx.State ι κ)
    (calls : List (Rx.Env ι × Rx.Skb)) : Rx.State ι κ :=
  calls.foldl (fun r call => (Rx.rtllibRx cfg call.1 r call.2).2) r

structure Unicast (skb : EthSkb) : Prop where
  header : 14 ≤ skb.len
  mtu : skb.len ≤ 1514
  toOne : ¬ skb.dest.isMulticast
  toOther : skb.src ≠ skb.dest

/-! ## The loop -/

section Loop

variable {c : Cipher} {dev : Device c.Priv} {skb : EthSkb}

def trailerLen (c : Cipher) (dev : Device c.Priv) (skb : EthSkb) : Nat :=
  if encrypts dev skb then c.micLen else 0

variable (c dev skb) in
theorem length_trailer (priv : c.Priv) (plain : Skb) :
    (trailer c dev skb priv plain).length = trailerLen c dev skb := by
  unfold trailer trailerLen
  split
  · exact c.length_mic _ _ _
  · rfl

theorem xmitLoop_makes (hdev : SoftwareIbss dev) (huses : ∀ ops ∈ dev.crypt, ops = c.ops)
    {s s' : State c.Priv} {i : Nat} {room : Room ((plan dev skb).fragSize + dev.txHeadroom)}
    {rooms frags : List Skb} (hcount : i + (rooms.length + 1) = (plan dev skb).nrFrags dev)
    (h : xmitLoop dev (plan dev skb) skb.mem s i (skb.payloadAt + (plan dev skb).offset dev i)
      (room.skb :: rooms) = some (frags, s')) :
    ∃ frag rest s₁ plain, frags = frag :: rest ∧
      Makes dev skb s s₁ i ((plan dev skb).more dev i) ((plan dev skb).payload dev skb i) plain
        frag ∧
      xmitLoop dev (plan dev skb) skb.mem s₁ (i + 1)
        (skb.payloadAt + (plan dev skb).offset dev (i + 1)) rooms = some (rest, s') := by
  -- One turn of the loop.
  obtain ⟨hpos, hall⟩ := bytesPerFrag_plan huses hdev.fts skb
  have hnext := (plan dev skb).offset_succ dev (i := i) (by omega) (Nat.le_add_left 8 _) (by omega)
  have hbody := (plan dev skb).length_body_le dev skb (by omega) (Nat.le_add_left 8 _) i
  have hparts : ((plan dev skb).body dev skb i).length =
      (if i = 0 then 8 else 0) + ((plan dev skb).payload dev skb i).length := by
    unfold Plan.body
    rw [List.length_append, apply_ite List.length, length_rtllibPutSnap, List.length_nil]
  simp only [xmitLoop, Option.bind_eq_bind, Option.bind_eq_some_iff] at h
  rw [(plan dev skb).more_eq dev hcount, Nat.add_assoc, hnext] at h
  obtain ⟨⟨frag, s₁⟩, hfrag, ⟨rest, s₂⟩, hloop, heq⟩ := h
  cases heq
  have hfits : (if i = 0 then 8 else 0) + ((plan dev skb).payload dev skb i).length ≤
      (plan dev skb).bytesPerFrag dev := by omega
  obtain ⟨plain, hmakes⟩ := xmitFragment_makes hdev hall hfits hfrag
  exact ⟨frag, rest, s₁, plain, rfl, hmakes, hloop⟩

variable (dev skb) in
theorem offset_le (hpos : 8 ≤ (plan dev skb).bytesPerFrag dev) (i : Nat) :
    (plan dev skb).offset dev i ≤ (plan dev skb).bytes - 8 := by
  have hall := ((plan dev skb).bytes_eq dev (by omega)
    (Nat.lt_of_lt_of_le (by decide) (Nat.le_add_left 8 _))).1
  unfold Plan.offset
  split
  · rename_i hlt
    have hmul : i * (plan dev skb).bytesPerFrag dev ≤
        ((plan dev skb).nrFrags dev - 1) * (plan dev skb).bytesPerFrag dev :=
      Nat.mul_le_mul_right _ (by omega)
    omega
  · exact le_rfl

theorem addressed {s : State c.Priv} {env : Rx.Env ι} (hskb : Unicast skb) (h : Listens env skb) :
    Rx.Addressed env (msduKeyOf s skb) :=
  ⟨h.adhoc, h.devAddr.symm, by rw [h.devAddr]; exact hskb.toOther, hskb.toOne⟩

variable [DecidableEq ι] {cfg : Rx.Config c.Priv} {slot : Fin 4}

/-- How the last call ends: the whole frame is in `msdu`, if there is room for it. -/
structure Whole (cfg : Rx.Config c.Priv) (dev : Device c.Priv) (skb : EthSkb) (slot : Fin 4)
    (key : Rx.MsduKey) (r₀ : Rx.State ι c.Priv) (first : Rx.Skb) (total : List Byte)
    (last : Rx.Env ι × Rx.Skb) (r₂ r' : Rx.State ι c.Priv) (msdu : Rx.Skb) (p : Option Nat) :
    Prop where
  quiet : Rx.Quiet r₀ r₂
  fragmentOf : ∃ frag, Rx.FragmentOf key (encrypts dev skb) false frag last.2
  selects : encrypts dev skb = true → Rx.selectCrypt cfg last.1 last.2 = some slot
  opened : Rx.Opened first msdu total
  ends : ∃ keyidx, r' = (Rx.afterReassembly cfg last.1 r₂ last.2 msdu keyidx p).2

/-- The fragments from the second one on. The induction is on the buffers that the loop has left;
the cache of the receiver holds what it has sent. -/
theorem xmitLoop_stage (hdev : SoftwareIbss dev) (huses : ∀ ops ∈ dev.crypt, ops = c.ops)
    (hpeers : encrypts dev skb = true → Peers c dev cfg slot) (hskb : Unicast skb)
    {s s' : State c.Priv} {i : Nat} {rooms frags : List Skb} {r₀ r : Rx.State ι c.Priv}
    {priv : Fin 4 → c.Priv} {time : BitVec 64} {first : Rx.Skb} {body : List Byte} {room : Nat}
    {calls : List (Rx.Env ι × Rx.Skb)} (hsome : rooms ≠ [])
    (hrooms : ∀ skb' ∈ rooms,
      ∃ room : Room ((plan dev skb).fragSize + dev.txHeadroom), skb' = room.skb)
    (hcount : i + 1 + rooms.length = (plan dev skb).nrFrags dev)
    (hnr : (plan dev skb).nrFrags dev ≤ 16)
    (hloop : xmitLoop dev (plan dev skb) skb.mem s (i + 1)
      (skb.payloadAt + (plan dev skb).offset dev (i + 1)) rooms = some (frags, s'))
    (hcalls : List.Forall₂ (fun frag call => OnAir dev frag call.2) frags calls)
    (hlistens : ∀ call ∈ calls, Listens call.1 skb)
    (hyoung : ∀ call ∈ calls, Rx.timeAfter call.1.jiffies (time + 2 * cfg.hz) = false)
    (hstage : Rx.Stage r₀ r (msduKeyOf s skb) i priv time first body room)
    (hsync : encrypts dev skb = true → Synced c skb slot rooms.length s.priv (priv slot)) :
    ∃ rest last, calls.getLast? = some last ∧
      rest.length = (plan dev skb).bytes - 8 - (plan dev skb).offset dev (i + 1) +
        trailerLen c dev skb * rooms.length ∧
      (trailerLen c dev skb = 0 → rest = bytesAt skb.mem
        (skb.payloadAt + (plan dev skb).offset dev (i + 1))
        ((plan dev skb).bytes - 8 - (plan dev skb).offset dev (i + 1))) ∧
      if 24 + (body ++ rest).length ≤ room then
        ∃ r₂ msdu p, Whole cfg dev skb slot (msduKeyOf s skb) r₀ first (body ++ rest) last r₂
          (rxRun cfg r calls) msdu p
      else Rx.Quiet r₀ (rxRun cfg r calls) := by
  have hpos := (bytesPerFrag_plan huses hdev.fts skb).1
  induction rooms generalizing s i r priv body frags calls with
  | nil => exact absurd rfl hsome
  | cons room' rooms ih =>
    rw [List.length_cons] at hcount hsync
    obtain ⟨room', rfl⟩ := hrooms room' List.mem_cons_self
    obtain ⟨frag, frags, s₁, plain, rfl, hmakes, hloop'⟩ :=
      xmitLoop_makes hdev huses (by omega) hloop
    obtain ⟨call, calls, hair, hcalls', rfl⟩ := List.forall₂_cons_left_iff.mp hcalls
    have hlisten := hlistens call List.mem_cons_self
    have hpriv : r.priv = priv := hstage.idle.priv
    obtain ⟨out, keyidx, priv', harrives⟩ := hmakes.arrives (r := r) hdev hpeers (by omega) hair
      hlisten (hpriv ▸ hsync)
    have haddressed := addressed (s := s) hskb hlisten
    have hkey := harrives.selectCrypt_ne
    have hnext := (plan dev skb).offset_succ dev (i := i + 1) (by omega) (Nat.le_add_left 8 _)
      (by omega)
    have hbody : ((if i + 1 = 0 then rtllibPutSnap skb.etherType else []) ++
        (plan dev skb).payload dev skb (i + 1)) = (plan dev skb).payload dev skb (i + 1) := rfl
    have htrailer := length_trailer c dev skb s.priv plain
    have hplen : ((plan dev skb).payload dev skb (i + 1)).length =
        (plan dev skb).payloadBytes dev (i + 1) ((plan dev skb).more dev (i + 1)) :=
      length_bytesAt _ _ _
    have hmsdu := hmakes.sameMsdu
    rw [hbody] at harrives
    cases rooms with
    | nil =>
      rw [List.length_nil] at hcount
      have hmore : (plan dev skb).more dev (i + 1) = false :=
        decide_eq_false (by omega)
      obtain ⟨rfl, -⟩ := Prod.mk.inj (Option.some.inj hloop')
      obtain rfl := List.forall₂_nil_left_iff.mp hcalls'
      have hend : (plan dev skb).offset dev (i + 1 + 1) = (plan dev skb).bytes - 8 := by
        rw [show i + 1 + 1 = (plan dev skb).nrFrags dev from hcount, Plan.offset_nrFrags]
      rw [hmore] at harrives
      have hlast := hstage.last harrives.fragmentOf haddressed hkey harrives.decrypts
        (hyoung call List.mem_cons_self)
      refine ⟨(plan dev skb).payload dev skb (i + 1) ++ trailer c dev skb s.priv plain, call, rfl,
        ?_, ?_, ?_⟩
      · rw [List.length_append, hplen, htrailer, List.length_singleton]
        omega
      · intro h0
        rw [h0, List.length_eq_zero_iff] at htrailer
        rw [htrailer, List.append_nil, ← hend, ← hnext, Nat.add_sub_cancel_left]
        rfl
      · split at hlast
        · rename_i hfits
          obtain ⟨r₂, msdu, p, hidle, hopened, heq⟩ := hlast
          rw [if_pos hfits]
          exact ⟨r₂, msdu, p, hidle.quiet, ⟨_, harrives.fragmentOf⟩, harrives.selects, hopened,
            keyidx, congrArg Prod.snd heq⟩
        · rename_i hlong
          rw [if_neg hlong]
          exact hlast
    | cons room'' rooms =>
      have hmore : (plan dev skb).more dev (i + 1) = true :=
        ((plan dev skb).more_eq dev hcount).symm
      rw [hmore] at harrives
      have hstage' := hstage.next harrives.fragmentOf haddressed hkey harrives.decrypts
        (hyoung call List.mem_cons_self)
      rw [← hmsdu] at hstage'
      obtain ⟨rest, last, hlast, hlen, hdata, hends⟩ := ih (by simp)
        (fun skb' h => hrooms skb' (List.mem_cons_of_mem _ h)) (by omega) hloop' hcalls'
        (fun call h => hlistens call (List.mem_cons_of_mem _ h))
        (fun call h => hyoung call (List.mem_cons_of_mem _ h)) hstage' harrives.synced
      rw [hmsdu, List.append_assoc] at hends
      refine ⟨((plan dev skb).payload dev skb (i + 1) ++ trailer c dev skb s.priv plain) ++ rest,
        last, ?_, ?_, ?_, hends⟩
      · rw [List.getLast?_cons, hlast]
        rfl
      · have hle := offset_le dev skb (by omega) (i + 1 + 1)
        have hmul : trailerLen c dev skb * (room'.skb :: room'' :: rooms).length =
            trailerLen c dev skb * (room'' :: rooms).length + trailerLen c dev skb :=
          Nat.mul_succ _ _
        rw [List.length_append, List.length_append, hplen, htrailer, hlen, hmul]
        omega
      · intro h0
        have hle := offset_le dev skb (by omega) (i + 1 + 1)
        rw [h0, List.length_eq_zero_iff] at htrailer
        rw [htrailer, List.append_nil, hdata h0, ← hnext, ← Nat.add_assoc]
        unfold Plan.payload
        rw [bytesAt_append]
        exact congrArg (bytesAt skb.mem _) (by omega)

end Loop

/-! ## The whole frame -/

/-- The fragments are fed to the receiver in order, before the cache forgets the first one. The
receiver has nothing of an MSDU with this number. -/
structure Feeds {c : Cipher} (dev : Device c.Priv) (skb : EthSkb) (cfg : Rx.Config c.Priv)
    (key : Rx.MsduKey) (frags : List Skb) (r : Rx.State ι c.Priv)
    (calls : List (Rx.Env ι × Rx.Skb)) : Prop where
  onAir : List.Forall₂ (fun frag call => OnAir dev frag call.2) frags calls
  listens : ∀ call ∈ calls, Listens call.1 skb
  inTime : ∀ first ∈ calls.head?, ∀ call ∈ calls.tail,
    Rx.timeAfter call.1.jiffies (first.1.jiffies + 2 * cfg.hz) = false
  inv : Rx.Ownership.Inv r
  absent : Rx.Absent r key
  fresh : ∀ first ∈ calls.head?, (Rx.isDuplicatePacket cfg first.1 r first.2).1 = false

section Sent

variable {c : Cipher} {dev : Device c.Priv} {skb : EthSkb} {s s' : State c.Priv} {txb : Txb}
  {cfg : Rx.Config c.Priv} {slot : Fin 4} {r : Rx.State ι c.Priv}
  {calls : List (Rx.Env ι × Rx.Skb)}

theorem Peers.uses (h : dev.crypt.isSome = true → Peers c dev cfg slot) :
    ∀ ops ∈ dev.crypt, ops = c.ops := by
  intro ops hops
  have hsome : dev.crypt = some ops := hops
  have hpeers := h (by rw [hsome]; rfl)
  exact Option.some.inj (hsome.symm.trans hpeers.txCrypt)

theorem isSome_of_encrypts (h : encrypts dev skb = true) : dev.crypt.isSome = true := by
  unfold encrypts at h
  rw [Bool.and_eq_true] at h
  exact h.2

theorem nrFrags_le (hdev : SoftwareIbss dev) (huses : ∀ ops ∈ dev.crypt, ops = c.ops)
    (hskb : Unicast skb) : (plan dev skb).nrFrags dev ≤ 16 := by
  have hpos := (bytesPerFrag_plan huses hdev.fts skb).1
  have hbytes : (plan dev skb).bytes = skb.len - skb.payloadAt + 8 := rfl
  have hall := ((plan dev skb).bytes_eq dev (by omega)
    (Nat.lt_of_lt_of_le (by decide) (Nat.le_add_left 8 _))).1
  have hmul : ((plan dev skb).nrFrags dev - 1) * 206 ≤
      ((plan dev skb).nrFrags dev - 1) * (plan dev skb).bytesPerFrag dev :=
    Nat.mul_le_mul_left _ hpos
  have hmtu := hskb.mtu
  omega

theorem first_sent (hdev : SoftwareIbss dev) (huses : ∀ ops ∈ dev.crypt, ops = c.ops)
    (hsent : rtllibXmitInter dev s skb = some (.sent txb, s')) :
    ∃ rooms t frag rest s₁ plain, txb.fragments = frag :: rest ∧
      rooms.length + 1 = (plan dev skb).nrFrags dev ∧
      (∀ skb' ∈ rooms, ∃ room : Room ((plan dev skb).fragSize + dev.txHeadroom),
        skb' = room.skb) ∧
      Makes dev skb s s₁ 0 ((plan dev skb).more dev 0) ((plan dev skb).payload dev skb 0) plain
        frag ∧
      xmitLoop dev (plan dev skb) skb.mem s₁ 1 (skb.payloadAt + (plan dev skb).offset dev 1)
        rooms = some (rest, t) := by
  -- The first turn of the loop.
  have hnr := (plan dev skb).nrFrags_pos dev
    (Nat.lt_of_lt_of_le (by decide) (Nat.le_add_left 8 _))
  obtain ⟨-, rooms, t, halloc, -, hloop⟩ := xmitInter_loop hdev.rawTx hsent
  obtain ⟨hcount, hrooms⟩ := rtllibAllocTxb_rooms halloc
  have hstart : skb.payloadAt = skb.payloadAt + (plan dev skb).offset dev 0 := by
    rw [(plan dev skb).offset_zero dev hnr, Nat.add_zero]
  rw [hstart] at hloop
  match rooms, hcount, hrooms, hloop with
  | [], hcount, _, _ => exact absurd hcount hnr.ne
  | room :: rooms, hcount, hrooms, hloop =>
    obtain ⟨room, rfl⟩ := hrooms room List.mem_cons_self
    obtain ⟨frag, rest, s₁, plain, hfrags, hmakes, hloop'⟩ :=
      xmitLoop_makes hdev huses ((Nat.zero_add _).trans hcount) hloop
    exact ⟨rooms, t, frag, rest, s₁, plain, hfrags, hcount,
      fun skb' h => hrooms skb' (List.mem_cons_of_mem _ h), hmakes, hloop'⟩

/-- The first fragment is here. -/
structure FirstArrives (c : Cipher) (dev : Device c.Priv) (cfg : Rx.Config c.Priv) (skb : EthSkb)
    (slot : Fin 4) (n : Nat) (s s₁ : State c.Priv) (r : Rx.State ι c.Priv) (plain : Skb)
    (call : Rx.Env ι × Rx.Skb) (out : Rx.Skb) (keyidx : Nat) (priv : Fin 4 → c.Priv) : Prop where
  data : plain.data = (plan dev skb).header dev ((plan dev skb).more dev 0)
    (seqCtl (s.seqCtrl 0) 0) ++ (plan dev skb).body dev skb 0
  ready : Ready plain 24 ((plan dev skb).prefixLen dev) ((plan dev skb).postfixLen dev)
  arrives : Arrives c dev cfg call.1 skb slot n s s₁ r 0 ((plan dev skb).more dev 0)
    ((plan dev skb).body dev skb 0 ++ trailer c dev skb s.priv plain) call.2 out keyidx priv

variable [DecidableEq ι]

theorem sent_one (hdev : SoftwareIbss dev)
    (hpeers : dev.crypt.isSome = true → Peers c dev cfg slot) (hskb : Unicast skb)
    (hsent : rtllibXmitInter dev s skb = some (.sent txb, s'))
    (hsync : encrypts dev skb = true →
      Synced c skb slot txb.fragments.length s.priv (r.priv slot))
    (hfeeds : Feeds dev skb cfg (msduKeyOf s skb) txb.fragments r calls)
    (hone : (plan dev skb).nrFrags dev = 1) :
    ∃ call s₁ plain out keyidx priv r₂, calls = [call] ∧
      FirstArrives c dev cfg skb slot 0 s s₁ r plain call out keyidx priv ∧
      Rx.Idle r r₂ (msduKeyOf s skb) 0 priv ∧
      rxRun cfg r calls = (Rx.afterReassembly cfg call.1 r₂ call.2 out keyidx none).2 := by
  -- One fragment is the whole frame.
  have huses := Peers.uses hpeers
  obtain ⟨rooms, t, frag, rest, s₁, plain, hfrags, hcount, -, hmakes, hloop⟩ :=
    first_sent hdev huses hsent
  obtain rfl : rooms = [] := List.length_eq_zero_iff.mp (by omega)
  obtain ⟨rfl, -⟩ := Prod.mk.inj (Option.some.inj hloop)
  obtain ⟨call, calls', hair, hcalls', rfl⟩ :=
    List.forall₂_cons_left_iff.mp (hfrags ▸ hfeeds.onAir)
  obtain rfl := List.forall₂_nil_left_iff.mp hcalls'
  have hlistens := hfeeds.listens call List.mem_cons_self
  have haddressed := addressed (s := s) hskb hlistens
  rw [hfrags] at hsync
  obtain ⟨out, keyidx, priv, harrives⟩ := hmakes.arrives hdev
    (fun h => hpeers (isSome_of_encrypts h)) (by decide) hair hlistens hsync
  have hkey := harrives.selectCrypt_ne
  have hmore : (plan dev skb).more dev 0 = false := decide_eq_false (by omega)
  have hframe := harrives.fragmentOf
  rw [hmore] at hframe
  obtain ⟨r₂, hidle, heq⟩ := Rx.whole_only hfeeds.inv hframe haddressed hkey
    (hfeeds.fresh call rfl) harrives.decrypts
  exact ⟨call, s₁, plain, out, keyidx, priv, r₂, rfl,
    ⟨hmakes.data, hmakes.ready, harrives⟩, hidle, congrArg Prod.snd heq⟩

/-- Several fragments become the whole frame, with the MICs of all of them in it. -/
theorem sent_several (hdev : SoftwareIbss dev)
    (hpeers : dev.crypt.isSome = true → Peers c dev cfg slot) (hskb : Unicast skb)
    (hsent : rtllibXmitInter dev s skb = some (.sent txb, s'))
    (hsync : encrypts dev skb = true →
      Synced c skb slot txb.fragments.length s.priv (r.priv slot))
    (hfeeds : Feeds dev skb cfg (msduKeyOf s skb) txb.fragments r calls)
    (hseveral : (plan dev skb).nrFrags dev ≠ 1) :
    ∃ first last total room, calls.getLast? = some last ∧ 1554 ≤ room ∧
      Rx.FragmentOf (msduKeyOf s skb) (encrypts dev skb) true 0 first ∧
      total.length = 8 + (skb.len - 14) + trailerLen c dev skb * (plan dev skb).nrFrags dev ∧
      (trailerLen c dev skb = 0 →
        total = rtllibPutSnap skb.etherType ++ bytesAt skb.mem 14 (skb.len - 14)) ∧
      if 24 + total.length ≤ room then
        ∃ r₂ msdu p, Whole cfg dev skb slot (msduKeyOf s skb) r first total last r₂
          (rxRun cfg r calls) msdu p
      else Rx.Quiet r (rxRun cfg r calls) := by
  have huses := Peers.uses hpeers
  have hpos := (bytesPerFrag_plan huses hdev.fts skb).1
  have hpeers' : encrypts dev skb = true → Peers c dev cfg slot :=
    fun h => hpeers (isSome_of_encrypts h)
  obtain ⟨rooms, t, frag, rest, s₁, plain, hfrags, hcount, hrooms, hmakes, hloop⟩ :=
    first_sent hdev huses hsent
  obtain ⟨call, calls', hair, hcalls', rfl⟩ :=
    List.forall₂_cons_left_iff.mp (hfrags ▸ hfeeds.onAir)
  have hrest : rest.length = rooms.length := length_xmitLoop hloop
  have hlistens := hfeeds.listens call List.mem_cons_self
  have haddressed := addressed (s := s) hskb hlistens
  rw [hfrags, List.length_cons, hrest] at hsync
  obtain ⟨out, keyidx, priv, harrives⟩ :=
    hmakes.arrives hdev hpeers' (by decide) hair hlistens hsync
  have hkey := harrives.selectCrypt_ne
  have hmore : (plan dev skb).more dev 0 = true := decide_eq_true (by omega)
  have hframe := harrives.fragmentOf
  rw [hmore] at hframe
  obtain ⟨room, halloc, hroom⟩ := hlistens.fragSkbRoom
  have hstage := Rx.stage_first hfeeds.inv hfeeds.absent hframe haddressed hkey
    (hfeeds.fresh call rfl) harrives.decrypts halloc
  have hmsdu := hmakes.sameMsdu
  rw [← hmsdu] at hstage
  obtain ⟨rest', last, hlast, hlen, hdata, hends⟩ := xmitLoop_stage hdev huses hpeers' hskb
    (List.ne_nil_of_length_pos (by omega)) hrooms (by omega) (nrFrags_le hdev huses hskb) hloop
    hcalls' (fun call h => hfeeds.listens call (List.mem_cons_of_mem _ h))
    (fun call' h => hfeeds.inTime call rfl call' h) hstage harrives.synced
  rw [hmsdu] at hends
  rw [Nat.zero_add] at hlen hdata
  have hnext := (plan dev skb).offset_succ dev (i := 0) (by omega) (Nat.le_add_left 8 _) (by omega)
  rw [(plan dev skb).offset_zero dev (by omega), Nat.zero_add, Nat.zero_add] at hnext
  have hle := offset_le dev skb (by omega) 1
  have hat : skb.payloadAt = 14 := if_neg (Nat.not_lt.mpr hskb.header)
  have hbytes : (plan dev skb).bytes - 8 = skb.len - 14 := by
    show skb.len - skb.payloadAt + 8 - 8 = _
    rw [hat, Nat.add_sub_cancel]
  have htrailer := length_trailer c dev skb s.priv plain
  have hpayload : (plan dev skb).payload dev skb 0 =
      bytesAt skb.mem 14 ((plan dev skb).offset dev 1) := by
    unfold Plan.payload
    rw [(plan dev skb).offset_zero dev (by omega), Nat.add_zero, hat, hnext]
  have hplen : ((plan dev skb).payload dev skb 0).length = (plan dev skb).offset dev 1 := by
    rw [hpayload]
    exact length_bytesAt _ _ _
  refine ⟨call.2, last, _, room, ?_, hroom, hframe, ?_, ?_, hends⟩
  · rw [List.getLast?_cons, hlast]
    rfl
  · have hmul : trailerLen c dev skb * (plan dev skb).nrFrags dev =
        trailerLen c dev skb * rooms.length + trailerLen c dev skb := by
      rw [← hcount]
      exact Nat.mul_succ _ _
    rw [List.length_append, List.length_append, List.length_append, if_pos rfl,
      length_rtllibPutSnap, hplen, htrailer, hlen, hmul]
    omega
  · intro h0
    rw [h0, List.length_eq_zero_iff] at htrailer
    rw [htrailer, List.append_nil, hdata h0, if_pos rfl, hpayload, List.append_assoc, hat,
      bytesAt_append]
    exact congrArg (fun n => _ ++ bytesAt skb.mem 14 n) (by omega)

end Sent

end Rtl8190.Xmit
