import GroupAccess.Proofs.Session.Basic
import GroupAccess.Proofs.Token.Bearer

namespace GroupAccess

/-- A step of a session, or the direct issue of a token. -/
inductive Turn
  | step (x : Step)
  | issueSigned (user : UserId) (audience : Audience) (lifetime : Span) (serial : Uuid)
  | issueSecret (user : UserId) (lifetime : Option Span) (id : TokenId) (secret : Secret)

namespace Turn

/-- The identifier that a registration gives. -/
def user? : Turn → Option UserId
  | step (.perform (.register _ _) d) => some d.user
  | _ => none

/-- The digest under which a secret may be stored. -/
def digest? : Turn → Option String
  | step (.perform o d) => if o.storesSecret then some d.secret.digest else none
  | issueSecret _ _ _ secret => some secret.digest
  | _ => none

def purges : Turn → Bool
  | step (.perform .purgeTokens _) => true
  | _ => false

end Turn

/-- No identifier is given to two users, and no two secrets have the same digest. -/
structure Distinct (turns : List Turn) : Prop where
  users : (turns.filterMap Turn.user?).Nodup
  digests : (turns.filterMap Turn.digest?).Nodup

/-- What a turn does to the users and the tokens. -/
inductive Turned (now : Instant) (t t' : Tables) (x : Turn) : Prop
  | kept (hp : x.purges = false) (hu : t'.users = t.users) (ht : t'.tokens = t.tokens)
  | registered (u : User) (hx : x.user? = some u.id) (hp : x.purges = false)
      (hu : t'.users = t.users.insert u.id u) (ht : t'.tokens = t.tokens)
  | stored (r : SecretRecord) (hx : x.digest? = some r.digest) (hp : x.purges = false)
      (hu : t'.users = t.users) (ht : t'.tokens = t.tokens.insert r.digest r)
  | deleted (id : UserId) (hc : t.users.contains id = true) (hp : x.purges = false)
      (hu : t'.users = t.users.erase id) (ht : t'.tokens = t.tokens.filter fun _ r => r.user ≠ id)
  | purged (hp : x.purges = true) (hu : t'.users = t.users)
      (ht : t'.tokens = t.tokens.filter fun _ r => !r.isExpired now)

namespace Service

def turn (s : Service) : Turn → Service
  | .step x => s.step x
  | .issueSigned user audience lifetime serial =>
    (run worker (Tokens.issueSigned s.policy.tokens s.clock user audience lifetime serial) s).2
  | .issueSecret user lifetime id secret =>
    (run worker (Tokens.issueSecret s.clock user lifetime id secret) s).2

/-- The service after some turns. -/
def play (s : Service) (turns : List Turn) : Service := turns.foldl turn s

theorem play_concat (s : Service) (turns : List Turn) (x : Turn) :
    s.play (turns ++ [x]) = (s.play turns).turn x := by
  rw [play, List.foldl_append]
  rfl

/-- The instants at which expired tokens are purged. -/
def purgesOf (s : Service) : List Turn → List Instant
  | [] => []
  | x :: rest => (if x.purges then [s.clock] else []) ++ (s.turn x).purgesOf rest

theorem purgesOf_concat (s : Service) (turns : List Turn) (x : Turn) :
    s.purgesOf (turns ++ [x]) =
      s.purgesOf turns ++ if x.purges then [(s.play turns).clock] else [] := by
  induction turns generalizing s with
  | nil => exact List.append_nil _
  | cons y turns ih =>
    rw [List.cons_append, purgesOf, purgesOf, ih, List.append_assoc]
    rfl

variable {s : Service}

namespace Idle

theorem perform_purgeTokens (h : s.Idle) (d : Draws) :
    (s.perform .purgeTokens d).2.tables = s.tables.purgeTokens s.clock := by
  have hw := h.atomic fun t =>
    (.ok (t.tokens.size - (t.purgeTokens s.clock).tokens.size), t.purgeTokens s.clock)
  rw [perform_eq (o := .purgeTokens) (h.run_ask (c := .purgeTokens s.clock) hw)]
  rfl

theorem turned_perform (h : s.Idle) (o : Operation) (d : Draws) :
    Turned s.clock s.tables (s.perform o d).2.tables (.step (.perform o d)) := by
  by_cases hp : (Turn.step (.perform o d)).purges = true
  · have ho : o = .purgeTokens := by
      cases o <;> first | rfl | cases hp
    subst ho
    rw [h.perform_purgeTokens, Tables.purgeTokens_eq]
    exact .purged rfl rfl rfl
  · have hp := Bool.eq_false_iff.2 hp
    obtain ⟨t, c, hs, ho⟩ := h.perform_outcome o d
    rw [hs, leaving_tables]
    generalize (s.perform o d).1 = r at ho
    cases ho with
    | refused | kept | redeemed => exact .kept hp rfl rfl
    | registered hid => exact .registered _ (congrArg some hid.symm) hp rfl rfl
    | secretStored ho hd =>
      refine .stored _ ?_ hp rfl rfl
      rw [Turn.digest?, if_pos ho, hd]
    | deleted hu => exact .deleted _ hu hp rfl rfl
    | purged => cases hp
    | roleStored | nameTaken | founded | invited =>
      refine .kept hp ?_ ?_
      · exact Tables.createRole_users ..
      · exact Tables.createRole_tokens ..

theorem turned (h : s.Idle) (x : Turn) :
    (s.turn x).Idle ∧ (s.turn x).policy = s.policy ∧
      Turned s.clock s.tables (s.turn x).tables x := by
  cases x with
  | step y =>
    refine ⟨h.step y, h.step_policy y, ?_⟩
    cases y with
    | perform o d => exact h.turned_perform o d
    | setClock now => exact .kept rfl rfl rfl
    | setFaults tokenWrites commits => exact .kept rfl rfl rfl
  | issueSigned user audience lifetime serial =>
    obtain ⟨c, hr⟩ := s.run_issueSigned (k := worker) s.policy.tokens s.clock user audience
      lifetime serial
    rw [turn, hr]
    exact ⟨h.leaving _ c, rfl, .kept rfl rfl rfl⟩
  | issueSecret user lifetime id secret =>
    obtain ⟨c, hr⟩ := h.run_issueSecret (k := worker) s.clock user lifetime id secret
    rw [turn, hr]
    refine ⟨h.leaving _ c, rfl, ?_⟩
    rw [leaving_tables]
    rcases s.tables.secretIssued_cases s.store.failsTokenWrites s.clock user lifetime id secret
      with ⟨e, he⟩ | ⟨expiry, -, -, he⟩
    · rw [he]
      exact .kept rfl rfl rfl
    · rw [he]
      exact .stored ⟨id, user, secret.digest, expiry, s.clock⟩ rfl rfl rfl rfl

theorem play (h : s.Idle) (turns : List Turn) :
    (s.play turns).Idle ∧ (s.play turns).policy = s.policy := by
  induction turns generalizing s with
  | nil => exact ⟨h, rfl⟩
  | cons x turns ih =>
    obtain ⟨hx, hp, -⟩ := h.turned x
    obtain ⟨hi, hq⟩ := ih hx
    exact ⟨hi, hq.trans hp⟩

end Idle

end Service

theorem Turned.users {now : Instant} {t t' : Tables} {x : Turn} (h : Turned now t t' x)
    {id : UserId} (hid : t'.users.contains id = true) :
    t.users.contains id = true ∨ x.user? = some id := by
  obtain ⟨u, hu⟩ := Table.contains_eq_true.1 hid
  have hold (hs : t'.users = t.users) : t.users.contains id = true := hs ▸ hid
  cases h with
  | kept _ hs => exact .inl (hold hs)
  | stored _ _ _ hs => exact .inl (hold hs)
  | purged _ hs => exact .inl (hold hs)
  | registered v hx _ hs =>
    rw [hs] at hu
    rcases Table.get?_insert_cases hu with ⟨rfl, -⟩ | hu
    · exact .inr hx
    · exact .inl (Table.contains_eq_true.2 ⟨u, hu⟩)
  | deleted v _ _ hs =>
    rw [hs] at hu
    exact .inl (Table.contains_eq_true.2 ⟨u, (Table.get?_filter_eq_some.1 hu).1⟩)

theorem Service.Idle.users_drawn {s : Service} (h : s.Idle) {seen : List UserId}
    (hseen : ∀ id, s.tables.users.contains id = true → id ∈ seen) (turns : List Turn) {id : UserId}
    (hid : (s.play turns).tables.users.contains id = true) :
    id ∈ seen ++ turns.filterMap Turn.user? := by
  induction turns using List.reverseRecOn with
  | nil => exact List.mem_append_left _ (hseen id hid)
  | append_singleton turns x ih =>
    rw [play_concat] at hid
    rw [List.filterMap_append, ← List.append_assoc, List.mem_append]
    rcases ((h.play turns).1.turned x).2.2.users hid with hid | hx
    · exact .inl (ih hid)
    · exact .inr (List.mem_filterMap.2 ⟨x, List.mem_singleton_self x, hx⟩)

theorem Service.start_drawn (policy : Policy) (timeoutMillis : Nat) (clock : Instant)
    (turns : List Turn) (id : UserId)
    (hid : ((start policy timeoutMillis clock).play turns).tables.users.contains id = true) :
    id ∈ turns.filterMap Turn.user? := by
  have h : id ∈ [] ++ turns.filterMap Turn.user? :=
    (start_idle policy timeoutMillis clock).users_drawn (fun _ h => nomatch h) turns hid
  exact h

/-- A secret that is issued among distinct ones is not issued again. -/
theorem Distinct.of_issue {before after : List Turn} {user : UserId} {lifetime : Option Span}
    {id : TokenId} {secret : Secret}
    (h : Distinct (before ++ .issueSecret user lifetime id secret :: after)) :
    (before.filterMap Turn.user? ++ after.filterMap Turn.user?).Nodup ∧
      secret.digest ∉ after.filterMap Turn.digest? := by
  obtain ⟨hu, hd⟩ := h
  have hdigest : (Turn.issueSecret user lifetime id secret).digest? = some secret.digest := rfl
  rw [List.filterMap_append, List.filterMap_cons_some hdigest, List.nodup_append] at hd
  rw [List.filterMap_append] at hu
  exact ⟨hu, (List.nodup_cons.1 hd.2.1).1⟩

/-- A record is kept, or it was purged after it expired, or its user was deleted and cannot come
back. -/
inductive Standing (r : SecretRecord) (seen : List UserId) (purged : List Instant) (t : Tables) :
    Prop
  | kept (hr : t.tokens.get? r.digest = some r) (hp : ∀ now ∈ purged, r.isExpired now = false)
  | purged (hr : t.tokens.get? r.digest = none) (hp : ∃ now ∈ purged, r.isExpired now = true)
  | gone (hr : t.tokens.get? r.digest = none) (hu : t.users.contains r.user = false)
      (hs : r.user ∈ seen)

namespace Standing

variable {r : SecretRecord} {seen : List UserId} {purged : List Instant} {t t' : Tables}
  {now : Instant} {x : Turn}

/-- A turn that leaves the record alone and does not bring its user back. -/
theorem of_same (h : Standing r seen purged t) (more : List UserId)
    (hr : t'.tokens.get? r.digest = t.tokens.get? r.digest)
    (hu : r.user ∈ seen → t.users.contains r.user = false → t'.users.contains r.user = false) :
    Standing r (seen ++ more) (purged ++ []) t' := by
  rw [List.append_nil]
  cases h with
  | kept hk hp => exact .kept (hr.trans hk) hp
  | purged hk hp => exact .purged (hr.trans hk) hp
  | gone hk hg hs => exact .gone (hr.trans hk) (hu hs hg) (List.mem_append_left _ hs)

theorem of_deleted (h : Standing r seen purged t) (more : List UserId) {id : UserId}
    (hid : id ∈ seen) (hu : t'.users = t.users.erase id)
    (ht : t'.tokens = t.tokens.filter fun _ r => r.user ≠ id) :
    Standing r (seen ++ more) (purged ++ []) t' := by
  have hfilter : t'.tokens.get? r.digest =
      (t.tokens.get? r.digest).filter fun r => r.user ≠ id := by
    rw [ht, Table.get?_filter]
  rw [List.append_nil]
  cases h with
  | kept hk hp =>
    rw [hk, Option.filter_some] at hfilter
    by_cases he : r.user = id
    · rw [if_neg (by simpa using he)] at hfilter
      refine .gone hfilter ?_ (List.mem_append_left _ (he ▸ hid))
      rw [Table.contains_eq_false, hu, Table.get?_erase, if_pos he]
    · rw [if_pos (by simpa using he)] at hfilter
      exact .kept hfilter hp
  | purged hk hp =>
    rw [hk] at hfilter
    exact .purged hfilter hp
  | gone hk hg hs =>
    rw [hk] at hfilter
    refine .gone hfilter ?_ (List.mem_append_left _ hs)
    rw [Table.contains_eq_false] at hg ⊢
    rw [hu, Table.get?_erase, hg, ite_self]

theorem of_purged (h : Standing r seen purged t) (more : List UserId) (hu : t'.users = t.users)
    (ht : t'.tokens = t.tokens.filter fun _ r => !r.isExpired now) :
    Standing r (seen ++ more) (purged ++ [now]) t' := by
  have hfilter : t'.tokens.get? r.digest =
      (t.tokens.get? r.digest).filter fun r => !r.isExpired now := by
    rw [ht, Table.get?_filter]
  cases h with
  | kept hk hp =>
    rw [hk, Option.filter_some] at hfilter
    cases he : r.isExpired now with
    | true =>
      rw [he] at hfilter
      exact .purged hfilter ⟨now, List.mem_append_right _ (List.mem_singleton_self now), he⟩
    | false =>
      rw [he] at hfilter
      refine .kept hfilter fun past hpast => ?_
      rcases List.mem_append.1 hpast with hpast | hpast
      · exact hp past hpast
      · rwa [List.mem_singleton.1 hpast]
  | purged hk hp =>
    rw [hk] at hfilter
    obtain ⟨past, hpast, he⟩ := hp
    exact .purged hfilter ⟨past, List.mem_append_left _ hpast, he⟩
  | gone hk hg hs =>
    rw [hk] at hfilter
    exact .gone hfilter (hu ▸ hg) (List.mem_append_left _ hs)

theorem turned (h : Standing r seen purged t) (hx : Turned now t t' x)
    (hd : x.digest? ≠ some r.digest) (hnew : ∀ id, x.user? = some id → id ∉ seen)
    (hold : ∀ id, t.users.contains id = true → id ∈ seen) :
    Standing r (seen ++ x.user?.toList) (purged ++ if x.purges then [now] else []) t' := by
  cases hx with
  | kept hp hu ht =>
    rw [hp]
    exact h.of_same _ (by rw [ht]) fun _ hg => hu ▸ hg
  | stored r' hx hp hu ht =>
    have hne : r.digest ≠ r'.digest := fun he => hd (he ▸ hx)
    rw [hp]
    exact h.of_same _ (by rw [ht, Table.get?_insert, if_neg hne]) fun _ hg => hu ▸ hg
  | registered u hx hp hu ht =>
    rw [hp]
    refine h.of_same _ (by rw [ht]) fun hs hg => ?_
    have hne : r.user ≠ u.id := fun he => hnew u.id hx (he ▸ hs)
    rw [Table.contains_eq_false] at hg ⊢
    rw [hu, Table.get?_insert, if_neg hne, hg]
  | deleted id hc hp hu ht =>
    rw [hp]
    exact h.of_deleted _ (hold id hc) hu ht
  | purged hp hu ht =>
    rw [hp]
    exact h.of_purged _ hu ht

theorem isExpired_eq_false {r : SecretRecord} {now : Instant} :
    r.isExpired now = false ↔ ∀ e ∈ r.expiry, now ≤ e := by
  rw [SecretRecord.isExpired]
  cases r.expiry with
  | none => exact ⟨fun _ _ he => (nomatch he), fun _ => rfl⟩
  | some e =>
    rw [decide_eq_false_iff_not]
    constructor
    · rintro h e' he
      cases he
      exact Int.not_lt.1 h
    · exact fun h => Int.not_lt.2 (h e rfl)

/-- The bearer of a secret by what became of its record. -/
theorem bearer? (h : Standing r seen purged t) (policy : TokenPolicy) (now : Instant)
    {secret : Secret} (hd : secret.digest = r.digest) :
    t.bearer? policy now .access secret.text =
      if t.users.contains r.user = true ∧ ∀ e ∈ r.expiry, now ≤ e ∧ ∀ past ∈ purged, past ≤ e
      then some r.user else none := by
  rw [Tables.bearer?_secret, hd]
  cases h with
  | kept hr hp =>
    rw [hr, Option.filter_some]
    cases he : r.isExpired now with
    | true =>
      refine (if_neg fun hc => ?_).symm
      rw [isExpired_eq_false.2 fun e hr => (hc.2 e hr).1] at he
      cases he
    | false =>
      have hall : ∀ e ∈ r.expiry, now ≤ e ∧ ∀ past ∈ purged, past ≤ e := fun e hr =>
        ⟨isExpired_eq_false.1 he e hr, fun past hpast => isExpired_eq_false.1 (hp past hpast) e hr⟩
      simp only [Bool.not_false, if_true, Option.map_some, Option.filter_some]
      cases t.users.contains r.user with
      | true => exact (if_pos ⟨rfl, hall⟩).symm
      | false => exact (if_neg fun hc => Bool.false_ne_true hc.1).symm
  | purged hr hp =>
    rw [hr]
    obtain ⟨past, hpast, he⟩ := hp
    refine (if_neg fun hc => ?_).symm
    rw [isExpired_eq_false.2 fun e hr => (hc.2 e hr).2 past hpast] at he
    cases he
  | gone hr hu hs =>
    rw [hr, hu]
    exact (if_neg fun hc => Bool.false_ne_true hc.1).symm

end Standing

/-- What becomes of a record in the turns after those that stored it. -/
theorem Service.Idle.standing_play {s : Service} (h : s.Idle) {r : SecretRecord}
    {seen : List UserId} (hseen : ∀ id, s.tables.users.contains id = true → id ∈ seen)
    (hr : s.tables.tokens.get? r.digest = some r) (turns : List Turn)
    (hu : (seen ++ turns.filterMap Turn.user?).Nodup)
    (hd : r.digest ∉ turns.filterMap Turn.digest?) :
    Standing r (seen ++ turns.filterMap Turn.user?) (s.purgesOf turns) (s.play turns).tables := by
  induction turns using List.reverseRecOn with
  | nil => exact .kept hr fun _ hpast => (nomatch hpast)
  | append_singleton turns x ih =>
    rw [List.filterMap_append, ← List.append_assoc] at hu ⊢
    rw [List.filterMap_append, List.mem_append, not_or] at hd
    obtain ⟨hold, -, hne⟩ := List.nodup_append.1 hu
    have hx : [x].filterMap Turn.user? = x.user?.toList := by
      cases hxu : x.user? with
      | none => exact List.filterMap_cons_none hxu
      | some id => exact List.filterMap_cons_some hxu
    rw [play_concat, purgesOf_concat, hx]
    have hlast {α : Type} {f : Turn → Option α} {a : α} (hf : f x = some a) : a ∈ [x].filterMap f :=
      List.mem_filterMap.2 ⟨x, List.mem_singleton_self x, hf⟩
    refine (ih hold hd.1).turned ((h.play turns).1.turned x).2.2 (fun hxd => hd.2 (hlast hxd))
      (fun id hid hmem => hne id hmem id (hlast hid) rfl) fun id hid => ?_
    exact h.users_drawn hseen turns hid

end GroupAccess
