import GroupAccess.Http.Server
import GroupAccess.Proofs.Codec.Text
import GroupAccess.Proofs.Operation.Credentials
import GroupAccess.Proofs.Service.Looking

namespace GroupAccess

namespace Text

theorem after?_eq_some {beginning text rest : List Char} :
    after? beginning text = some rest ↔ text = beginning ++ rest := by
  unfold after?
  constructor
  · intro h
    split at h
    · rename_i hp
      cases h
      exact (List.prefix_iff_eq_append.1 (List.isPrefixOf_iff_prefix.1 hp)).symm
    · cases h
  · rintro rfl
    rw [if_pos (List.isPrefixOf_iff_prefix.2 (List.prefix_append ..)), List.drop_left]

end Text

namespace Request

/-- The first header of a name, which is given in lower case, has the value. -/
def First (r : Request) (name : String) (value : List UInt8) : Prop :=
  ∃ before key after, r.headers = before ++ (key, value) :: after ∧
    Text.asciiLowercase key = name ∧ ∀ h ∈ before, Text.asciiLowercase h.1 ≠ name

/-- Only tabs and the printable characters of ASCII. -/
def Printable (value : List UInt8) : Prop := ∀ b ∈ value, b = 9 ∨ 32 ≤ b ∧ b ≤ 126

/-- The token is what the first authorization header has after `Bearer`, without the blanks around
it. -/
def Presents (r : Request) (token : String) : Prop :=
  ∃ value rest, r.First "authorization" value ∧ Printable value ∧
    value = utf8 ("Bearer " ++ rest) ∧ token = Text.trim rest ∧ token ≠ ""

theorem Printable.ascii {value : List UInt8} (h : Printable value) {b : UInt8} (hb : b ∈ value) :
    b.toNat < 128 := by
  rcases h b hb with rfl | ⟨-, hle⟩
  · decide
  · have hle : b.toNat ≤ 126 := UInt8.le_iff_toNat_le.1 hle
    omega

theorem all_printable {value : List UInt8} :
    (value.all fun b => b == 0x09 || (0x20 ≤ b && b ≤ 0x7e)) = true ↔ Printable value := by
  simp only [Printable, List.all_eq_true, Bool.or_eq_true, beq_iff_eq, Bool.and_eq_true,
    decide_eq_true_eq]

theorem utf8_inj {s t : String} (h : utf8 s = utf8 t) : s = t := by
  have hs := ofUtf8?_utf8 s
  rw [h, ofUtf8?_utf8] at hs
  exact (Option.some.inj hs).symm

theorem utf8_visible {value : List UInt8} (h : Printable value) :
    utf8 (String.ofList (value.map fun b => Char.ofNat b.toNat)) = value := by
  have hn : ∀ n < 128, (Char.ofNat n).toNat = n := by decide
  have hascii : ∀ c ∈ value.map fun b => Char.ofNat b.toNat, c.toNat < 128 := by
    intro c hc
    obtain ⟨b, hb, rfl⟩ := List.mem_map.1 hc
    rw [hn _ (h.ascii hb)]
    exact h.ascii hb
  have hback : ∀ b ∈ value, UInt8.ofNat (Char.ofNat b.toNat).toNat = b := by
    intro b hb
    rw [hn _ (h.ascii hb), UInt8.ofNat_toNat]
  rw [utf8_ofList, charBytes_ascii hascii, List.map_map]
  exact (List.map_congr_left hback).trans (List.map_id _)

/-- A value that is visible is the text of its bytes. -/
theorem visible?_eq_some {value : List UInt8} {text : String} :
    visible? value = some text ↔ Printable value ∧ value = utf8 text := by
  unfold visible?
  constructor
  · intro h
    split at h
    · rename_i hp
      cases h
      exact ⟨all_printable.1 hp, (utf8_visible (all_printable.1 hp)).symm⟩
    · cases h
  · rintro ⟨hp, rfl⟩
    rw [if_pos (all_printable.2 hp)]
    exact congrArg some (utf8_inj (utf8_visible hp))

theorem header?_eq_some {r : Request} {name text : String} :
    r.header? name = some text ↔
      ∃ value, r.First name value ∧ Printable value ∧ value = utf8 text := by
  unfold header?
  rw [Option.bind_eq_some_iff]
  constructor
  · rintro ⟨⟨key, value⟩, hfind, hv⟩
    obtain ⟨hkey, before, after, hsplit, hbefore⟩ := List.find?_eq_some_iff_append.1 hfind
    refine ⟨value, ⟨before, key, after, hsplit, by simpa using hkey, ?_⟩, visible?_eq_some.1 hv⟩
    intro h hh
    simpa using hbefore h hh
  · rintro ⟨value, ⟨before, key, after, hsplit, hkey, hbefore⟩, hv⟩
    refine ⟨(key, value), List.find?_eq_some_iff_append.2 ⟨by simpa using hkey, before, after,
      hsplit, ?_⟩, visible?_eq_some.2 hv⟩
    intro h hh
    simpa using hbefore h hh

/-- The token of a request is the one that it presents. -/
theorem bearer?_eq_some {r : Request} {token : String} :
    r.bearer? = some token ↔ r.Presents token := by
  have hguard (cs : List Char) : (guard (!cs.isEmpty) : Option Unit).bind
      (fun _ => some (String.ofList cs)) = some token ↔ token = String.ofList cs ∧ token ≠ "" := by
    cases cs with
    | nil =>
      constructor
      · intro h
        cases h
      · rintro ⟨rfl, hne⟩
        exact absurd rfl hne
    | cons c cs =>
      have hne : String.ofList (c :: cs) ≠ "" := by
        intro h
        have hl := congrArg String.toList h
        rw [String.toList_ofList] at hl
        cases hl
      constructor
      · intro h
        cases h
        exact ⟨rfl, hne⟩
      · rintro ⟨rfl, -⟩
        rfl
  constructor
  · intro h
    obtain ⟨text, hheader, h⟩ := Option.bind_eq_some_iff.1 h
    obtain ⟨rest, hafter, hg⟩ := Option.bind_eq_some_iff.1 h
    obtain ⟨value, hf, hp, hv⟩ := header?_eq_some.1 hheader
    have hrest : text.toList = "Bearer ".toList ++ rest := Text.after?_eq_some.1 hafter
    have hlist : (String.ofList rest).toList = rest := String.toList_ofList
    have htext : text = "Bearer " ++ String.ofList rest := by
      rw [← String.toList_inj, hrest, String.toList_append, hlist]
    obtain ⟨htoken, hne⟩ := (hguard _).1 hg
    refine ⟨value, String.ofList rest, hf, hp, htext ▸ hv, ?_, hne⟩
    rw [Text.trim, String.toList_ofList]
    exact htoken
  · rintro ⟨value, rest, hf, hp, hv, htoken, hne⟩
    have hheader := header?_eq_some.2 ⟨value, hf, hp, hv⟩
    have hafter : Text.after? "Bearer ".toList ("Bearer " ++ rest).toList = some rest.toList :=
      Text.after?_eq_some.2 String.toList_append
    refine Option.bind_eq_some_iff.2 ⟨"Bearer " ++ rest, hheader, ?_⟩
    refine Option.bind_eq_some_iff.2 ⟨rest.toList, hafter, ?_⟩
    exact (hguard _).2 ⟨htoken, hne⟩

end Request

open Handler

namespace Server

/-- What is behind the gate on a protected route, for a user. -/
def behind (req : Request) (d : Draws) (route : Route) (user : UserId) : Handler :=
  match route.verb? req.method with
  | some verb => guarded req (Url.Target.ofText req.target) user d route verb
  | none => reply (.empty 405)

/-- The request comes through the gate as the user: whatever is behind it is carried out for that
user, with the service as `s'`. -/
def LetsThrough (req : Request) (d : Draws) (s : Service) (user : UserId) (s' : Service) : Prop :=
  ∀ next : UserId → Handler, gate req d next s = next user s'

variable {req : Request} {d : Draws} {s : Service}

theorem dispatch_protected (settings : Settings) {route : Route}
    (hr : Route.ofSegments (Url.Target.ofText req.target).segments = some route)
    (hp : route.isPublic = false) :
    dispatch settings req d = gate req d (behind req d route) := by
  simp only [dispatch, hr, hp]
  unfold behind
  cases route.verb? req.method <;> rfl

/-- The token of the request resolves to the user. -/
def Entitled (req : Request) (d : Draws) (s : Service) (user : UserId) : Prop :=
  ∃ token, req.Presents token ∧ (s.perform (.resolveToken token) d).1 = .ok user

variable (req d) in
/-- A request comes through as the user that its token resolves to, or else has the one answer. -/
theorem gate_cases (hf : s.store.holding Service.worker = none) :
    (∃ user c, Entitled req d s user ∧ LetsThrough req d s user (s.leaving s.tables c)) ∨
      (∀ user, ¬Entitled req d s user) ∧
        ∃ c, ∀ next, gate req d next s = (.problem .unauthenticated, s.leaving s.tables c) := by
  cases hb : req.bearer? with
  | none =>
    refine .inr ⟨?_, s.counters, fun next => by simp only [gate, hb]; rfl⟩
    rintro user ⟨token, hpresents, -⟩
    rw [Request.bearer?_eq_some.2 hpresents] at hb
    cases hb
  | some token =>
    have hpresents : req.Presents token := Request.bearer?_eq_some.1 hb
    obtain ⟨c, hs⟩ := s.perform_looks hf (o := .resolveToken token) rfl d
    cases hp : s.perform (.resolveToken token) d with
    | mk r s' =>
      rw [hp] at hs
      cases hs
      cases r with
      | ok user =>
        refine .inl ⟨user, c, ⟨token, hpresents, by rw [hp]⟩, fun next => ?_⟩
        simp only [gate, hb, hp]
        rfl
      | error e =>
        refine .inr ⟨?_, c, fun next => by simp only [gate, hb, hp]; rfl⟩
        rintro user ⟨other, hother, hr⟩
        rw [← Request.bearer?_eq_some, hb] at hother
        cases hother
        rw [hp] at hr
        cases hr

/-- Nobody comes through as two users: what is behind the gate may answer each user otherwise. -/
theorem LetsThrough.unique {user other : UserId} {s' s'' : Service}
    (h : LetsThrough req d s user s') (h' : LetsThrough req d s other s'') : user = other := by
  have hreply := congrArg (fun r => r.1.status)
    ((h fun u => reply (.empty (if u = user then 200 else 404))).symm.trans (h' _))
  by_cases he : other = user
  · exact he.symm
  · simp [reply, Reply.empty, he] at hreply

/-- Those come through whose token resolves, and nobody else. -/
theorem letsThrough_iff (hf : s.store.holding Service.worker = none) (user : UserId) :
    (∃ s', s'.store = s.store ∧ LetsThrough req d s user s') ↔ Entitled req d s user := by
  rcases gate_cases req d hf with ⟨owner, c, howner, hl⟩ | ⟨hn, c, hg⟩
  · constructor
    · rintro ⟨s', -, h⟩
      rw [h.unique hl]
      exact howner
    · rintro ⟨token, hpresents, hr⟩
      obtain ⟨mine, hmine, hr'⟩ := howner
      have htoken := Request.bearer?_eq_some.2 hpresents
      rw [Request.bearer?_eq_some.2 hmine] at htoken
      cases htoken
      cases hr.symm.trans hr'
      exact ⟨s.leaving s.tables c, rfl, hl⟩
  · constructor
    · rintro ⟨s', -, h⟩
      have hreply := (h fun _ => reply (.empty 200)).symm.trans (hg _)
      have hstatus : (200 : Nat) = 401 := congrArg (fun r => r.1.status) hreply
      exact absurd hstatus (by decide)
    · intro h
      exact absurd h (hn user)

/-- The answer on a protected route to whoever does not come through. -/
def turnedAway (req : Request) (route : Route) : Reply :=
  if req.method = "HEAD" ∧ .get ∈ route.verbs then .empty 401
  else .json 401 (.object [("error", .string "Missing or invalid credentials")])

theorem wantsHead_eq {route : Route}
    (hr : Route.ofSegments (Url.Target.ofText req.target).segments = some route) :
    wantsHead req = decide (req.method = "HEAD" ∧ .get ∈ route.verbs) := by
  rw [wantsHead, hr, Option.bind_some, Bool.decide_and]
  by_cases hm : req.method = "HEAD"
  · have hverb : route.verb? "HEAD" = (some Route.Verb.get).filter (· ∈ route.verbs) := rfl
    rw [hm, hverb, Option.filter_some]
    by_cases hg : Route.Verb.get ∈ route.verbs <;> simp [hg]
  · simp [hm]

theorem handle_turnedAway (settings : Settings) (fresh : Uuid)
    (hf : s.store.holding Service.worker = none) {route : Route}
    (hr : Route.ofSegments (Url.Target.ofText req.target).segments = some route)
    (hp : route.isPublic = false) (hn : ∀ user, ¬Entitled req d s user) :
    (handle settings req fresh d s).1.reply = turnedAway req route ∧
      (handle settings req fresh d s).2.store = s.store := by
  rcases gate_cases req d hf with ⟨user, -, hu, -⟩ | ⟨-, c, hg⟩
  · exact absurd hu (hn user)
  · rw [handle, dispatch_protected settings hr hp, hg, wantsHead_eq hr]
    refine ⟨?_, rfl⟩
    by_cases hh : req.method = "HEAD" ∧ .get ∈ route.verbs
    · simp only [turnedAway, hh, and_self, decide_true, if_true]
      rfl
    · simp only [turnedAway, hh, decide_false, if_false]
      rfl

end Server

open Server

/-- Whatever the request, the state and the failures that are planned: a protected route is served
behind the gate, through which the request comes as a user just if the token that it presents
resolves to the user. If it resolves to nobody, the answer is the same for all requests, but that
its content is left out where the head alone is wanted, and the store stays as it is. -/
theorem protected_behind_gate (settings : Settings) (req : Request) (fresh : Uuid) (d : Draws)
    {s : Service} (hf : s.store.holding Service.worker = none) {route : Route}
    (hr : Route.ofSegments (Url.Target.ofText req.target).segments = some route)
    (hp : route.isPublic = false) :
    dispatch settings req d = gate req d (behind req d route) ∧
      (∀ user, (∃ s', s'.store = s.store ∧ LetsThrough req d s user s') ↔
        ∃ token, req.Presents token ∧ (s.perform (.resolveToken token) d).1 = .ok user) ∧
      ((∀ token user, req.Presents token → (s.perform (.resolveToken token) d).1 ≠ .ok user) →
        (handle settings req fresh d s).1.reply = turnedAway req route ∧
          (handle settings req fresh d s).2.store = s.store) := by
  refine ⟨dispatch_protected settings hr hp, letsThrough_iff hf, fun hn => ?_⟩
  apply handle_turnedAway settings fresh hf hr hp
  rintro user ⟨token, hpresents, ht⟩
  exact hn token user hpresents ht

namespace Sample

/-- A configuration of the service. -/
def settings : Settings :=
  { listener := {}, environment := .dev, serviceName := "", serviceVersion := "", logLevel := ""
    store := ⟨.memory, none, 1, 1, 5000⟩, policy, purgeSeconds := 60, hashConcurrency := 1 }

/-- A request about the account of its sender. -/
def about (method : String) (headers : List (String × List UInt8)) : Request :=
  ⟨method, "/users/me", headers, []⟩

theorem about_route (method : String) (headers : List (String × List UInt8)) :
    Route.ofSegments (Url.Target.ofText (about method headers).target).segments = some .me := by
  have hme : Route.ofSegments (Url.Target.ofText "/users/me").segments = some .me := by
    decide +kernel
  exact hme

/-- The API key of the member. -/
def apiKey : Secret := (draws 9).secret

def bearing : Request := about "GET" [("Authorization", utf8 ("Bearer " ++ apiKey.text))]

theorem bearing_presents : bearing.Presents apiKey.text := by
  refine ⟨_, apiKey.text, ⟨[], "Authorization", [], rfl, by decide +kernel, ?_⟩, ?_, rfl, ?_, ?_⟩
  · intro h hh
    cases hh
  · unfold Request.Printable
    decide +kernel
  · decide +kernel
  · decide +kernel

theorem about_nothing (method token : String) : ¬(about method []).Presents token := by
  rintro ⟨value, -, ⟨before, name, after, hsplit, -⟩, -⟩
  exact List.append_ne_nil_of_right_ne_nil before (List.cons_ne_nil _ after) hsplit.symm

/-- The member is registered and has an API key. -/
def keyed : Service :=
  { service with
    store.tables :=
      { users := Table.empty.insert member account
        tokens := Table.empty.insert apiKey.digest
          ⟨(draws 9).token, member, apiKey.digest, none, clock⟩ } }

theorem keyed_resolves (d : Draws) :
    (keyed.perform (.resolveToken apiKey.text) d).1 = .ok member := by
  have hi : keyed.Idle := ⟨rfl, rfl⟩
  have hr : keyed.tables.tokens.get? apiKey.digest =
      some ⟨(draws 9).token, member, apiKey.digest, none, clock⟩ := Table.get?_insert_self ..
  have hu : keyed.tables.users.contains member = true := rfl
  rw [hi.perform_resolveToken, Tables.bearer?_secret, hr, Option.filter_some]
  exact congrArg Tokens.answer (Option.filter_some_pos hu)

end Sample

open Sample in
/-- With an API key, and with nothing. -/
theorem protected_behind_gate_sample :
    (∃ s', s'.store = keyed.store ∧ LetsThrough bearing (draws 6) keyed member s') ∧
      (handle settings (about "GET" []) (uuid 0) (draws 6) keyed).1.reply =
        .json 401 (.object [("error", .string "Missing or invalid credentials")]) := by
  have hf : keyed.store.holding Service.worker = none := rfl
  obtain ⟨-, hthrough, -⟩ := protected_behind_gate settings bearing (uuid 0) (draws 6) hf
    (about_route "GET" _) rfl
  obtain ⟨-, -, hothers⟩ := protected_behind_gate settings (about "GET" []) (uuid 0) (draws 6) hf
    (about_route "GET" []) rfl
  obtain ⟨hreply, -⟩ := hothers fun token user h => absurd h (about_nothing "GET" token)
  refine ⟨(hthrough member).2 ⟨apiKey.text, bearing_presents, keyed_resolves _⟩, ?_⟩
  rw [hreply]
  rfl

open Sample in
/-- Not all who are turned away get the same content: two requests for one path, without tokens. -/
theorem turned_away_unlike :
    (handle settings (about "GET" []) (uuid 0) (draws 6) keyed).1.reply =
        .json 401 (.object [("error", .string "Missing or invalid credentials")]) ∧
      (handle settings (about "HEAD" []) (uuid 0) (draws 6) keyed).1.reply = .empty 401 := by
  have hf : keyed.store.holding Service.worker = none := rfl
  have hanswer (method : String) :
      (handle settings (about method []) (uuid 0) (draws 6) keyed).1.reply =
        turnedAway (about method []) .me := by
    refine (handle_turnedAway settings (uuid 0) hf (about_route method []) rfl ?_).1
    rintro user ⟨token, hpresents, -⟩
    exact about_nothing method token hpresents
  rw [hanswer, hanswer]
  exact ⟨rfl, rfl⟩

end GroupAccess
