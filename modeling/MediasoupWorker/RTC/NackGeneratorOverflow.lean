import MediasoupWorker.RTC.NackGenerator

/-!
# `NackGenerator`: what is given up when the NACK list overflows

`AddPacketsToNackList` first removes the entries that are more than `MaxPacketAge` behind the new packet.
If the missing numbers still do not fit, it removes entries up to a key frame, again and again, and else
clears the list and asks for a key frame. A search for a key frame only says that the *last* entry before
its end is older than it; in their set each key frame is lower than the next one.
-/

namespace MediasoupWorker.RTC.NackGenerator

open Library List

/-! ## Key frames in the order of their set -/

def SeqChain (seqs : List (BitVec 16)) : Prop :=
  seqs.IsChain fun a b => isSeqLowerThan a b = true

variable {p e : BitVec 16}

theorem lower_of_between {y z : BitVec 16} (hye : cdist p y ≤ cdist p e) (hez : cdist p e < cdist p z)
    (hyz : isSeqLowerThan y z = true) : isSeqLowerThan e z = true := by
  have hy : cdist y z = cdist p z - cdist p y := toNat_sub_of_cdist_le (by omega)
  have he : cdist e z = cdist p z - cdist p e := toNat_sub_of_cdist_le hez.le
  have hstep := (isSeqLowerThan_iff_cdist_self (by decide) y z).mp hyz
  rcases Nat.eq_or_lt_of_le hye with hsame | hlt
  · rw [← cdist_inj.mp hsame]
    exact hyz
  · exact (isSeqLowerThan_iff_cdist_self (by decide) e z).mpr ⟨by omega, .inl (by omega)⟩

variable {seqs : List (BitVec 16)}

theorem le_of_isChain (hchain : SeqChain seqs) (hnone : ∀ y ∈ seqs, isSeqLowerThan e y = false)
    (hhead : ∀ x ∈ seqs.head?, cdist p x ≤ cdist p e) : ∀ y ∈ seqs, cdist p y ≤ cdist p e := by
  induction seqs with
  | nil => simp
  | cons x seqs ih =>
    obtain ⟨hnext, hrest⟩ := isChain_cons.mp hchain
    obtain ⟨-, hnone'⟩ := forall_mem_cons.mp hnone
    have hx : cdist p x ≤ cdist p e := hhead x rfl
    refine forall_mem_cons.mpr ⟨hx, ih hrest hnone' fun z hz => ?_⟩
    by_contra hbehind
    have hhi := lower_of_between hx (not_le.mp hbehind) (hnext z hz)
    rw [hnone' z (mem_of_mem_head? hz)] at hhi
    cases hhi

/-- **A key frame that removes entries need not be newer than all of them**: if `v` is lower than a
number of the chain, every `e` from `p` up to `v` is lower than some number of it. -/
theorem exists_higher_of_isChain {v k : BitVec 16} (hchain : SeqChain seqs)
    (hhead : ∀ x ∈ seqs.head?, isSeqLowerThan x p = false) (hk : k ∈ seqs) (hvk : isSeqLowerThan v k = true)
    (hev : cdist p e ≤ cdist p v) (hv : cdist p v ≤ maxPacketAge) :
    ∃ y ∈ seqs, isSeqLowerThan e y = true := by
  by_contra h
  have hnone : ∀ y ∈ seqs, isSeqLowerThan e y = false :=
    fun y hy => Bool.eq_false_iff.mpr fun hlow => h ⟨y, hy, hlow⟩
  have hfirst : ∀ x ∈ seqs.head?, cdist p x ≤ cdist p e := by
    intro x hx
    by_contra hbehind
    have hne : x ≠ p := by
      rintro rfl
      rw [cdist_self] at hbehind
      omega
    have hpx : isSeqLowerThan p x = true :=
      (lower_or_lower hne).resolve_left (by rw [hhead x hx]; decide)
    have hhi := lower_of_between (by rw [cdist_self]; omega) (not_le.mp hbehind) hpx
    rw [hnone x (mem_of_mem_head? hx)] at hhi
    cases hhi
  -- so `k` is not behind `e`, and then `v` is not lower than it
  have hke : cdist p k ≤ cdist p e := le_of_isChain hchain hnone hfirst k hk
  have hhalf : maxPacketAge ≤ maxValue 16 / 2 := by decide
  have hlt := (isSeqLowerThan_iff_cdist (p := p) (by decide) (by omega) (by omega)).mp hvk
  omega

/-! ## What the loop removes -/

section Loop

variable {trees : Trees} {p : BitVec 16} {nackList nackList' : List NackInfo}
  {keyFrameList keyFrameList' : List (BitVec 16)} {info : NackInfo}

def BeforeKeyFrame (p : BitVec 16) (nackList : List NackInfo) (keyFrameList : List (BitVec 16))
    (info : NackInfo) : Prop :=
  ∃ k ∈ keyFrameList, ∃ v ∈ nackList.map NackInfo.seq,
    isSeqLowerThan v k = true ∧ cdist p info.seq ≤ cdist p v

theorem BeforeKeyFrame.mono (h : BeforeKeyFrame p nackList keyFrameList info) (hlist : nackList <:+ nackList')
    (hkeys : keyFrameList <:+ keyFrameList') : BeforeKeyFrame p nackList' keyFrameList' info := by
  obtain ⟨k, hk, v, hv, hlow⟩ := h
  exact ⟨k, hkeys.subset hk, v, (hlist.sublist.map NackInfo.seq).subset hv, hlow⟩

theorem mem_drop_or_beforeKeyFrame (trees : Trees) {key : BitVec 16}
    (hlist : (nackList.map NackInfo.seq).Pairwise fun a b => cdist p a < cdist p b)
    (hkey : key ∈ keyFrameList) (hinfo : info ∈ nackList) :
    info ∈ nackList.drop (trees.nackList.lowerBound (nackList.map NackInfo.seq) key) ∨
      BeforeKeyFrame p nackList keyFrameList info := by
  set it := trees.nackList.lowerBound (nackList.map NackInfo.seq) key with hit
  rw [← take_append_drop it nackList] at hinfo
  refine (mem_append.mp hinfo).symm.imp_right fun htake => ?_
  have hseq : info.seq ∈ (nackList.map NackInfo.seq).take it := by
    rw [← map_take]
    exact mem_map_of_mem htake
  obtain ⟨v, hv, hlow, hle⟩ := Search.exists_lt_of_mem_take_lowerBound hlist hseq
  exact ⟨key, hkey, v, hv, hlow, hle⟩

theorem removeNackItemsUntilKeyFrame_given_up (trees : Trees) (keyFrameList : List (BitVec 16))
    (hlist : (nackList.map NackInfo.seq).Pairwise fun a b => cdist p a < cdist p b)
    (hinfo : info ∈ nackList) : info ∈ (removeNackItemsUntilKeyFrame trees nackList keyFrameList).1 ∨
      BeforeKeyFrame p nackList keyFrameList info := by
  induction keyFrameList with
  | nil => exact .inl hinfo
  | cons key keyFrameList ih =>
    rw [removeNackItemsUntilKeyFrame]
    split_ifs
    · exact mem_drop_or_beforeKeyFrame trees hlist mem_cons_self hinfo
    · exact ih.imp_right fun h => h.mono (suffix_refl _) (suffix_cons _ _)

theorem makeRoom_given_up (n rs : ℕ)
    (hlist : (nackList.map NackInfo.seq).Pairwise fun a b => cdist p a < cdist p b)
    (hinfo : info ∈ nackList) :
    info ∈ (makeRoom trees n rs nackList keyFrameList).1 ∨ BeforeKeyFrame p nackList keyFrameList info := by
  induction rs generalizing nackList keyFrameList with
  | zero => exact .inl hinfo
  | succ rs ih =>
    obtain ⟨hsuffix, hkeys⟩ := removeNackItemsUntilKeyFrame_suffix trees nackList keyFrameList
    rcases removeNackItemsUntilKeyFrame_given_up trees keyFrameList hlist hinfo with
      hkept | hbefore
    · rw [makeRoom]
      dsimp only
      split_ifs
      · have hlist' := hlist.sublist (hsuffix.sublist.map NackInfo.seq)
        exact (ih hlist' hkept).imp_right fun h => h.mono hsuffix hkeys
      · exact .inl hkept
    · exact .inr hbefore

theorem makeRoomFor_given_up (start : BitVec 16) {seqEnd : BitVec 16} {generator : NackGenerator}
    (hlist : ((generator.removeOld trees seqEnd).map NackInfo.seq).Pairwise fun a b =>
      cdist p a < cdist p b) (hinfo : info ∈ generator.removeOld trees seqEnd) :
    info ∈ (generator.makeRoomFor trees start seqEnd).1 ∨
      BeforeKeyFrame p (generator.removeOld trees seqEnd) generator.keyFrameList info := by
  rw [makeRoomFor]
  split_ifs
  · exact makeRoom_given_up _ _ hlist hinfo
  · exact .inl hinfo

theorem makeRoom_eq_of_lt (n : ℕ) {rs : ℕ} (hrounds : nackList.length < rs)
    (keyFrameList : List (BitVec 16)) : makeRoom trees n rs nackList keyFrameList =
      makeRoom trees n (nackList.length + 1) nackList keyFrameList := by
  induction rs, hrounds using Nat.le_induction with
  | base => rfl
  | succ rs hle ih => rw [makeRoom_ends n hle, ih]

end Loop

/-! ## The order of the key frames in a run -/

def Event.keyFrame : Event → Option (BitVec 16)
  | .receivePacket _ _ seq true _ => some seq
  | _ => none

def receivedKeyFrames (events : List Event) : List (BitVec 16) := events.filterMap Event.keyFrame

def withKeyFrame (trees : Trees) (seq : BitVec 16) (isKeyFrame : Bool)
    (keyFrameList : List (BitVec 16)) : List (BitVec 16) :=
  if isKeyFrame then trees.keyFrameList.insert seq keyFrameList else keyFrameList

variable {trees : Trees} {seq : BitVec 16} {key : Bool} {generator : NackGenerator}

/-- **What a packet does to the key frames.** Its own may be put in, and then some may leave from the
front. -/
theorem receivePacket_keyFrameList {now : BitVec 64} {recov ret : Bool} {g' : NackGenerator}
    {out : List Output} (h : generator.receivePacket trees now seq key recov = .ok (g', out, ret)) :
    g'.keyFrameList <:+ generator.keyFrameList ∨
      g'.keyFrameList <:+ withKeyFrame trees seq key generator.keyFrameList := by
  have hupd : (generator.updateKeyFrameList trees seq key).keyFrameList <:+
      withKeyFrame trees seq key generator.keyFrameList := drop_suffix _ _
  cases received_of_receivePacket h with
  | first => exact .inr (suffix_refl _)
  | repeated => exact .inl (suffix_refl _)
  | found => exact .inl (suffix_refl _)
  | notFound => exact .inl (suffix_refl _)
  | ahead => exact .inr hupd
  | newer hst hne hnewer hadd =>
    refine .inr (List.IsSuffix.trans ?_ hupd)
    rcases addPacketsToNackList_cases hadd with ⟨rfl, -⟩ | ⟨-, -, _, -, rfl⟩
    · exact (makeRoomFor_suffix ..).2
    · exact (makeRoomFor_suffix ..).2

structure KeyFramesInv (events : List Event) (generator : NackGenerator) : Prop where
  inv : generator.Inv
  chain : SeqChain generator.keyFrameList
  received : ∀ k ∈ generator.keyFrameList, k ∈ receivedKeyFrames events

variable {keyFrameList : List (BitVec 16)}

theorem withKeyFrame_chain (h : SeqChain keyFrameList) :
    SeqChain (withKeyFrame trees seq key keyFrameList) := by
  cases key with
  | false => exact h
  | true => exact Search.isChain_insert h

theorem mem_withKeyFrame {k : BitVec 16} (hk : k ∈ withKeyFrame trees seq key keyFrameList) :
    k ∈ keyFrameList ∨ (key = true ∧ k = seq) := by
  cases key with
  | false => exact .inl hk
  | true => exact (Search.mem_of_mem_emplace hk).symm.imp_right fun h => ⟨rfl, h⟩

theorem KeyFramesInv.step {es : List Event} (h : KeyFramesInv es generator) (ev : Event) :
    ∃ generator', generator.next ev = .ok generator' ∧ KeyFramesInv (es ++ [ev]) generator' := by
  obtain ⟨generator', output, hstep, hinv⟩ := step_inv h.inv ev
  have hnext : generator.next ev = .ok generator' := by
    rw [next, hstep]
    rfl
  have hold : ∀ k ∈ generator.keyFrameList, k ∈ receivedKeyFrames (es ++ [ev]) := by
    intro k hk
    rw [receivedKeyFrames, filterMap_append]
    exact mem_append_left _ (h.received k hk)
  -- a list that is left when some leave from the front
  have hsuffix : generator'.keyFrameList <:+ generator.keyFrameList →
      KeyFramesInv (es ++ [ev]) generator' := fun hsub =>
    ⟨hinv, h.chain.suffix hsub, fun k hk => hold k (hsub.subset hk)⟩
  refine ⟨generator', hnext, ?_⟩
  cases ev with
  | receivePacket trees nowMs seq key recov =>
    rw [NackGenerator.step] at hstep
    obtain ⟨⟨g, out, returned⟩, hrecv, hret⟩ := bind_eq_ok.mp hstep
    cases hret
    rcases receivePacket_keyFrameList hrecv with hsub | hsub
    · exact hsuffix hsub
    · refine ⟨hinv, (withKeyFrame_chain h.chain).suffix hsub, fun k hk => ?_⟩
      rcases mem_withKeyFrame (hsub.subset hk) with hk | ⟨rfl, rfl⟩
      · exact hold k hk
      · rw [receivedKeyFrames, filterMap_append]
        exact mem_append_right _ (by simp [Event.keyFrame])
  | timer nowMs =>
    rw [NackGenerator.step] at hstep
    split_ifs at hstep
    · cases hstep
      refine hsuffix ?_
      rw [mayRunTimer_eq]
    · cases hstep
      exact hsuffix (suffix_refl _)
  | updateRtt rtt =>
    cases hstep
    exact hsuffix (suffix_refl _)
  | reset =>
    cases hstep
    exact hsuffix nil_suffix

theorem run_keyFramesInv (events : List Event) :
    ∃ generator, run next {} events = .ok generator ∧ KeyFramesInv events generator :=
  run_ok_of_history_inv (I := KeyFramesInv)
    ⟨inv_new, isChain_nil, fun _ hk => absurd hk not_mem_nil⟩
    fun _ ev _ _ h => h.step ev

/-! ## A gap before a new packet -/

def Outdated (keyFrames : List (BitVec 16)) (seq : BitVec 16) (info : NackInfo) : Prop :=
  maxPacketAge < (seq - info.seq).toNat ∨ ∃ k ∈ keyFrames, isSeqLowerThan info.seq k = true

theorem mem_removeOld_or_old (trees : Trees) (hlist : NackOrder generator.lastSeq generator.nackSeqs)
    (hgap : cdist generator.lastSeq seq ≤ maxNackPackets + 1) {info : NackInfo}
    (hinfo : info ∈ generator.nackList) :
    info ∈ generator.removeOld trees seq ∨ maxPacketAge < (seq - info.seq).toNat := by
  have hsizes : maxPacketAge + maxPacketAge ≤ maxValue 16 / 2 ∧ maxNackPackets + 1 ≤ maxPacketAge ∧
      maxValue 16 / 2 < 2 ^ 16 := by decide
  have hoff := cdist_oldestSeq_oldestSeq generator.lastSeq seq
  set p := oldestSeq generator.lastSeq
  set d := cdist generator.lastSeq seq
  rcases mem_drop_or_beforeKeyFrame (p := p) trees hlist.increasing
    (mem_singleton_self (oldestSeq seq)) hinfo with hkept | ⟨k, hk, v, hv, hlower, hle⟩
  · exact .inl hkept
  · obtain rfl := mem_singleton.mp hk
    have hseq : cdist p seq = maxPacketAge + d := by
      have hadd : cdist p (generator.lastSeq + BitVec.ofNat 16 d) = cdist p generator.lastSeq + d :=
        cdist_add (by rw [cdist_oldestSeq]; omega)
      rw [add_cdist, cdist_oldestSeq] at hadd
      exact hadd
    have hv' : cdist p v < maxPacketAge := hlist.below v hv
    have hvd : cdist p v < d := by
      rw [← hoff]
      exact (isSeqLowerThan_iff_cdist (by decide) (by omega) (by omega)).mp hlower
    have hdist : (seq - info.seq).toNat = cdist p seq - cdist p info.seq :=
      toNat_sub_of_cdist_le (by omega)
    right
    omega

theorem updateKeyFrameList_head {x : BitVec 16}
    (hx : x ∈ (generator.updateKeyFrameList trees seq key).keyFrameList.head?) :
    isSeqLowerThan x (oldestSeq seq) = false := by
  refine trees.keyFrameList.not_lt_at (withKeyFrame trees seq key generator.keyFrameList)
    (oldestSeq seq) x ?_
  rw [← head?_drop]
  exact hx

theorem exists_keyFrame_of_beforeKeyFrame {nackList : List NackInfo} {info : NackInfo}
    (hchain : SeqChain generator.keyFrameList) (hlist : NackOrder seq (nackList.map NackInfo.seq))
    (hpre : BeforeKeyFrame (oldestSeq seq) nackList
      (generator.updateKeyFrameList trees seq key).keyFrameList info) :
    ∃ k ∈ withKeyFrame trees seq key generator.keyFrameList, isSeqLowerThan info.seq k = true := by
  have hsuffix : (generator.updateKeyFrameList trees seq key).keyFrameList <:+
      withKeyFrame trees seq key generator.keyFrameList := drop_suffix _ _
  obtain ⟨k, hk, v, hv, hlow, hle⟩ := hpre
  obtain ⟨y, hy, hhi⟩ := exists_higher_of_isChain ((withKeyFrame_chain hchain).suffix hsuffix)
    (fun x hx => updateKeyFrameList_head hx) hk hlow hle (hlist.below v hv).le
  exact ⟨y, hsuffix.subset hy, hhi⟩

/-- **A gap before a new packet** asks for a key frame and leaves no entry, or every entry that is
gone is outdated. -/
theorem addPacketsToNackList_given_up {es : List Event} (h : KeyFramesInv es generator) (trees : Trees)
    (key : Bool) (hne : seq ≠ generator.lastSeq) :
    ∃ gen' out, (generator.updateKeyFrameList trees seq key).addPacketsToNackList trees
        (generator.lastSeq + 1) seq = .ok (gen', out) ∧ ((out = [.keyFrameRequired] ∧ gen'.nackList = []) ∨
        (out = [] ∧ ∀ info ∈ generator.nackList, info ∈ gen'.nackList ∨
          Outdated (receivedKeyFrames es ++ if key then [seq] else []) seq info)) := by
  set g := generator.updateKeyFrameList trees seq key with hg
  have hlist : NackOrder g.lastSeq g.nackSeqs := h.inv.ordered
  obtain ⟨gen', out, hrun, -⟩ := addPacketsToNackList_spec trees hlist hne
  refine ⟨gen', out, hrun, ?_⟩
  rcases addPacketsToNackList_cases hrun with ⟨rfl, rfl⟩ | ⟨hroom, rfl, nackList, hadd, rfl⟩
  · exact .inl ⟨rfl, rfl⟩
  · refine .inr ⟨rfl, fun info hinfo => ?_⟩
    -- there is room, so the gap is small
    have hgap : cdist generator.lastSeq seq ≤ maxNackPackets + 1 := by
      have hsize : (seq - (g.lastSeq + 1)).toNat + 1 = cdist generator.lastSeq seq := toNat_gap hne
      omega
    have hord : NackOrder seq ((g.removeOld trees seq).map NackInfo.seq) := by
      have hsizes : maxNackPackets ≤ maxPacketAge := by decide
      have hend := cdist_oldestSeq_gap hne (by omega)
      exact (removeOld_ordered trees hlist hgap).mono (Nat.le.intro hend)
    rcases mem_removeOld_or_old trees hlist hgap hinfo with hrecent | hold
    · rcases makeRoomFor_given_up (generator.lastSeq + 1) hord.increasing hrecent with
        hstays | hbefore
      · exact .inl (mem_addMissing_of_mem hadd hstays)
      · obtain ⟨k, hk, hhi⟩ := exists_keyFrame_of_beforeKeyFrame h.chain hord hbefore
        refine .inr (.inr ⟨k, mem_append.mpr ?_, hhi⟩)
        rcases mem_withKeyFrame hk with hk | ⟨rfl, rfl⟩
        · exact .inl (h.received k hk)
        · exact .inr (mem_singleton_self _)
    · exact .inr (.inl hold)

/-- **An overflow only gives up old packets.** The loop ends; it asks for a key frame and leaves
nothing, or what it discards is more than `MaxPacketAge` behind or older than a received key frame,
and the rest is kept. -/
theorem overflow_gives_up_old (events : List Event) (trees : Trees) (seq : BitVec 16)
    (isKeyFrame : Bool) :
    ∃ generator, run next {} events = .ok generator ∧ (seq ≠ generator.lastSeq →
      (∀ n rounds nackList keyFrameList, nackList.length < rounds →
        makeRoom trees n rounds nackList keyFrameList =
          makeRoom trees n (nackList.length + 1) nackList keyFrameList) ∧ ∃ generator' output,
        (generator.updateKeyFrameList trees seq isKeyFrame).addPacketsToNackList trees
          (generator.lastSeq + 1) seq = .ok (generator', output) ∧
        ((output = [.keyFrameRequired] ∧ generator'.nackList = []) ∨
          (output = [] ∧ ∀ info ∈ generator.nackList, info ∈ generator'.nackList ∨
            Outdated (receivedKeyFrames events ++ if isKeyFrame then [seq] else []) seq info))) := by
  obtain ⟨generator, hrun, hinv⟩ := run_keyFramesInv events
  refine ⟨generator, hrun, fun hne => ⟨?_, ?_⟩⟩
  · intro n rounds nackList keyFrameList hrounds
    exact makeRoom_eq_of_lt n hrounds keyFrameList
  · exact addPacketsToNackList_given_up hinv trees isKeyFrame hne

theorem overflow_gives_up_old_gap :
    ∃ generator, run next {} [.receivePacket .linear 1 0 false false,
        .receivePacket .linear 2 2 true false] = .ok generator ∧
      generator.nackSeqs = [1] ∧ generator.lastSeq = 2 ∧ ∃ generator' output,
        (generator.updateKeyFrameList .linear 1003 false).addPacketsToNackList .linear 3 1003 =
          .ok (generator', output) ∧ ((output = [.keyFrameRequired] ∧ generator'.nackList = []) ∨
          (output = [] ∧ ∀ info ∈ generator.nackList, info ∈ generator'.nackList ∨
            Outdated [2] 1003 info)) := by
  obtain ⟨generator, hrun, h⟩ := overflow_gives_up_old
    [.receivePacket .linear 1 0 false false, .receivePacket .linear 2 2 true false] .linear 1003 false
  cases hrun
  exact ⟨_, rfl, by decide +kernel, by decide +kernel, (h (by decide +kernel)).2⟩

end MediasoupWorker.RTC.NackGenerator
