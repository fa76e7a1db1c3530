import Mathlib.Tactic.SplitIfs
import RestGateway.Proofs.Backend.SharedCache
import RestGateway.Proofs.Gateway.Requests
import RestGateway.Proofs.Json.Records

/-!
# Versions

The root is open to anyone. One call asks the backend for its version, under the caller's credentials
or under placeholders, and nothing is remembered of it. Numbers of the backend's version pass through
doubles; integers that doubles hold come out as they are.
-/

set_option autoImplicit false

namespace RestGateway

def Decimal.Binary64.IsInteger (b : Decimal.Binary64) (z : Int) : Prop :=
  b.mantissa * 2 ^ b.exponent.toNat = z.natAbs * 2 ^ (-b.exponent).toNat ∧
    z = if b.negative then -(z.natAbs : Int) else z.natAbs

namespace Number

inductive IsInteger : Number → Int → Prop
  | int (z : Int) : IsInteger (.int z) z
  | float {x : Float} {b : Decimal.Binary64} {z : Int} (finite : Decimal.Binary64.ofFloat? x = some b)
      (whole : b.IsInteger z) : IsInteger (.float x) z

theorem roundToDouble_exact {n : Nat} (h : n ≤ 2 ^ 53) : roundToDouble n = n := by
  rcases Nat.eq_or_lt_of_le h with rfl | hlt
  · decide
  · have hlog : n.log2 < 53 := by
      by_cases hn : n = 0
      · rw [hn]
        decide
      · exact (Nat.log2_lt hn).mpr hlt
    have hshift : n.log2 + 1 - 53 = 0 := by omega
    simp only [roundToDouble, hshift]
    simp [Nat.mod_one]

theorem truncate_exact {x : Float} {b : Decimal.Binary64} {z : Int}
    (hb : Decimal.Binary64.ofFloat? x = some b) (hz : b.IsInteger z) : truncate x = z := by
  obtain ⟨hsize, hsign⟩ := hz
  have hwhole : b.mantissa * Nat.pow 2 b.exponent.toNat / Nat.pow 2 (-b.exponent).toNat =
      z.natAbs := Nat.div_eq_of_eq_mul_left (Nat.two_pow_pos _) hsize
  simp only [truncate, hb, hwhole]
  exact hsign.symm

theorem clamp_exact {z : Int} (h : z.natAbs ≤ 2 ^ 53) : Word.clamp z = z := by
  unfold Word.clamp Word.least Word.greatest
  split_ifs <;> omega

/-- An integer that doubles count up to is kept by the way through a double. -/
theorem IsInteger.toWord {n : Number} {z : Int} (h : n.IsInteger z) (hz : z.natAbs ≤ 2 ^ 53) :
    n.toWord = z := by
  cases h with
  | int z =>
    rw [Number.toWord, roundToDouble_exact hz, Int.sign_mul_natAbs, clamp_exact hz]
  | float finite whole => rw [Number.toWord, truncate_exact finite whole, clamp_exact hz]

end Number

namespace ServerInfo

/-- The first three parts are numbers. -/
structure Begins (i : ServerInfo) (a b c : Number) : Prop where
  parts : ∃ more, i.version = .number a :: .number b :: .number c :: more

theorem part_some {v : Json} {n : Int} (h : part v = some n) : ∃ a, v = .number a := by
  unfold part at h
  split at h
  · exact ⟨_, rfl⟩
  · cases h

theorem versionText_begins {i : ServerInfo} {a b c : Number} (h : i.Begins a b c) :
    i.versionText = some ("v" ++ toString a.toWord ++ "." ++ toString b.toWord ++ "." ++
      toString c.toWord) := by
  obtain ⟨more, hparts⟩ := h
  rw [versionText, hparts]
  rfl

theorem versionText_none {i : ServerInfo} (h : ¬ ∃ a b c, i.Begins a b c) :
    i.versionText = none := by
  rw [Option.eq_none_iff_forall_ne_some]
  intro text htext
  unfold versionText at htext
  split at htext
  · next x y z more hparts =>
    simp only [Option.bind_eq_bind, Option.bind_eq_some_iff] at htext
    obtain ⟨_, hx, _, hy, _, hz, -⟩ := htext
    obtain ⟨a, rfl⟩ := part_some hx
    obtain ⟨b, rfl⟩ := part_some hy
    obtain ⟨c, rfl⟩ := part_some hz
    exact h ⟨a, b, c, ⟨more, hparts⟩⟩
  · cases htext

end ServerInfo

open Json Json.Reader in
theorem ServerInfo.reads {parts : List Json} (hp : ∀ v ∈ parts, v.isProper = true)
    (hf : (Json.list parts).isFloatFree = true) {depth : Nat}
    (hn : (Json.object [("version", .list parts)]).nesting ≤ depth) :
    Reads (decoder depth) (.object [("version", .list parts)]) ⟨parts⟩ := by
  obtain ⟨inner, rfl, hm⟩ := object_nesting hn
  apply record_reads (by simp [defaulted])
  exact .given (reads_map _ (reads_values hp hf (hm ("version", _) (by simp)))) (.nil _)

def Reply.Informs (reply : Reply) (i : ServerInfo) : Prop :=
  ∃ bytes, reply.body = .ok bytes ∧ ServerInfo.decoder.decode bytes = .ok i

def Http.Response.internalError : Http.Response :=
  .json 500 (.object [("error", .string "Internal server error"),
    ("code", .string "INTERNAL_ERROR"), ("status", .number (.int 500))])

namespace Versions

/-- How the root answers to a reply. -/
structure Answered (reply : Reply) (response : Http.Response) : Prop where
  clientError : 400 ≤ reply.status → reply.status < 500 → response = .internalError
  serverError : 500 ≤ reply.status → reply.status < 600 → response.status = 502
  useless : (reply.status < 400 ∨ 600 ≤ reply.status) →
    (¬ ∃ i a b c, reply.Informs i ∧ i.Begins a b c) → response = .internalError
  told : ∀ i a b c, (reply.status < 400 ∨ 600 ≤ reply.status) → reply.Informs i →
    i.Begins a b c → ∃ version, i.versionText = some version ∧
      response = .json 200 (VersionReport.toJson ⟨version, gatewayVersion⟩) ∧
      ∀ x y z : Int, a.IsInteger x → b.IsInteger y → c.IsInteger z → x.natAbs ≤ 2 ^ 53 →
        y.natAbs ≤ 2 ^ 53 → z.natAbs ≤ 2 ^ 53 →
        version = "v" ++ toString x ++ "." ++ toString y ++ "." ++ toString z

theorem client_false {s : Nat} (h : s < 400 ∨ 500 ≤ s) : Http.Status.isClientError s = false := by
  change (decide (400 ≤ s) && decide (s < 500)) = false
  simp only [Bool.and_eq_false_iff, decide_eq_false_iff_not]
  omega

theorem server_false {s : Nat} (h : s < 500 ∨ 600 ≤ s) : Http.Status.isServerError s = false := by
  change (decide (500 ≤ s) && decide (s < 600)) = false
  simp only [Bool.and_eq_false_iff, decide_eq_false_iff_not]
  omega

theorem status_plain {s : Nat} (h : s < 400 ∨ 600 ≤ s) :
    Http.Status.isClientError s = false ∧ Http.Status.isServerError s = false :=
  ⟨client_false (by omega), server_false (by omega)⟩

def finish (o : Outcome) : Http.Response := GatewayError.orResponse (report o)

variable {reply : Reply}

theorem finish_error {e : GatewayError} (h : versionOf (.ok reply) = .error e) :
    finish (.ok reply) = e.response := by
  rw [finish, report, h]
  rfl

theorem finish_clientError (h : reply.status.isClientError = true) :
    finish (.ok reply) = .internalError :=
  finish_error (by rw [versionOf, if_pos h])

theorem finish_serverError (hc : reply.status.isClientError = false)
    (h : reply.status.isServerError = true) : (finish (.ok reply)).status = 502 := by
  rw [finish_error (by rw [versionOf, if_neg (by simp [hc]), if_pos h])]
  rfl

theorem finish_useless (hc : reply.status.isClientError = false)
    (hs : reply.status.isServerError = false)
    (h : ¬ ∃ i version, reply.Informs i ∧ i.versionText = some version) :
    finish (.ok reply) = .internalError := by
  obtain ⟨m, hm⟩ : ∃ m, versionOf (.ok reply) = .error (.internal m) := by
    cases hb : reply.body with
    | error reason => exact ⟨"could not read backend info: " ++ reason, by simp [versionOf, hc, hs, hb]⟩
    | ok bytes =>
      cases hd : ServerInfo.decoder.decode bytes with
      | error d => exact ⟨"could not decode backend info: " ++ d, by simp [versionOf, hc, hs, hb, hd]⟩
      | ok i =>
        cases hv : i.versionText with
        | none => exact ⟨"backend info carries no version", by simp [versionOf, hc, hs, hb, hd, hv]⟩
        | some version => exact absurd ⟨i, version, ⟨bytes, hb, hd⟩, hv⟩ h
  rw [finish_error hm]
  rfl

theorem finish_told {i : ServerInfo} {version : String} (hc : reply.status.isClientError = false)
    (hs : reply.status.isServerError = false) (h : reply.Informs i)
    (hv : i.versionText = some version) :
    finish (.ok reply) = .json 200 (VersionReport.toJson ⟨version, gatewayVersion⟩) := by
  obtain ⟨bytes, hb, hd⟩ := h
  have hversion : versionOf (.ok reply) = .ok version := by
    simp [versionOf, hc, hs, hb, hd, hv]
  rw [finish, report, hversion]
  rfl

theorem finish_answered (reply : Reply) : Answered reply (finish (.ok reply)) := by
  constructor
  · intro hl hu
    exact finish_clientError (by simp [Http.Status.isClientError, hl, hu])
  · intro hl hu
    exact finish_serverError (client_false (.inr hl)) (by simp [Http.Status.isServerError, hl, hu])
  · intro h hnone
    obtain ⟨hc, hs⟩ := status_plain h
    refine finish_useless hc hs ?_
    rintro ⟨i, version, hi, hv⟩
    have hbegins : ¬ ∃ a b c, i.Begins a b c := by
      rintro ⟨a, b, c, hb⟩
      exact hnone ⟨i, a, b, c, hi, hb⟩
    rw [ServerInfo.versionText_none hbegins] at hv
    cases hv
  · intro i a b c h hi hb
    obtain ⟨hc, hs⟩ := status_plain h
    have hv := ServerInfo.versionText_begins hb
    refine ⟨_, hv, finish_told hc hs hi hv, ?_⟩
    intro x y z hx hy hz hxb hyb hzb
    rw [hx.toWord hxb, hy.toWord hyb, hz.toWord hzb]

theorem credentials_cases (r : Http.Request) :
    (∀ c, Authorization.parse (r.headers.values "authorization") = .ok c → credentials r = c) ∧
    ∀ e, Authorization.parse (r.headers.values "authorization") = .error e →
      credentials r = .script "fake-script" "fake-key" := by
  unfold credentials
  constructor
  · intro c h
    rw [h]
  · intro e h
    rw [h]
    rfl

end Versions

namespace Gateway

variable {g : Gateway} {r : Http.Request} {url : Url}

/-- A `GET` of the root makes one call for the backend's version, whoever asks, leaves the gateway as
it was, and is answered by what the backend replies. -/
theorem serve_versions (choice : Nat) (hp : r.target.path = ['/']) (hm : r.method = "GET")
    (hu : serverUrl g.clients.host g.clients.apiPath = .ok url) :
    ∃ credentials,
      (∀ c, Authorization.parse (r.headers.values "authorization") = .ok c → credentials = c) ∧
      (∀ e, Authorization.parse (r.headers.values "authorization") = .error e →
        credentials = .script "fake-script" "fake-key") ∧
      (g.serve choice r).1.calls = [⟨url, "info", credentials, .object []⟩] ∧
      (g.serve choice r).2 = g ∧
      ∀ (b : Backend) (reply : Reply), b ⟨url, "info", credentials, .object []⟩ = .ok reply →
        Versions.Answered reply ((g.serve choice r).1.run b) := by
  have hroute : Route.ofPath? r.target.path = some .versions := by
    rw [hp]
    rfl
  have hconnect : g.clients.connect (Versions.credentials r) =
      .ok ⟨url, Versions.credentials r⟩ := by
    rw [Cache.connect, Client.make, hu]
    rfl
  have hplan : Serve.plan g choice readLimit r =
      (.ask ⟨url, "info", Versions.credentials r, .object []⟩ Versions.finish, g) := by
    simp only [Serve.plan, hroute, Serve.isRead, hm, Versions.plan, hconnect]
    rfl
  have hallows : Route.allows .versions r.method = true := by
    rw [hm]
    rfl
  have hserve : g.serve choice r =
      (.ask ⟨url, "info", Versions.credentials r, .object []⟩ Versions.finish, g) := by
    rw [serve, hplan]
    simp only [Serve.finish_of_ne _ hroute hallows (show r.method ≠ "HEAD" by simp [hm])]
  obtain ⟨hgiven, hplaceholder⟩ := Versions.credentials_cases r
  refine ⟨Versions.credentials r, hgiven, hplaceholder, ?_, ?_, ?_⟩
  · rw [hserve]
    rfl
  · rw [hserve]
  · intro b reply hb
    rw [hserve, Plan.run, hb]
    exact Versions.finish_answered reply

theorem serve_versions_told :
    let r : Http.Request :=
      ⟨"GET", ⟨['/'], []⟩, [("authorization", Utf8.bytes "Bearer abc")], []⟩
    let reply : Reply :=
      ⟨200, .ok (Utf8.bytes "\x7b\"version\":[6,0,-9007199254740992,\"dev\"]\x7d")⟩
    ∃ url, serverUrl small.clients.host small.clients.apiPath = .ok url ∧
      (small.serve 0 r).1.calls =
        [⟨url, "info", .script "fake-script" "fake-key", .object []⟩] ∧
      (small.serve 0 r).1.run (fun _ => .ok reply) =
        .json 200 (VersionReport.toJson ⟨"v6.0.-9007199254740992", gatewayVersion⟩) := by
  intro r reply
  obtain ⟨url, hu⟩ : ∃ url, serverUrl small.clients.host small.clients.apiPath = .ok url :=
    ⟨_, rfl⟩
  obtain ⟨credentials, -, hplaceholder, hcalls, -, hanswered⟩ :=
    serve_versions (g := small) (r := r) 0 rfl rfl hu
  obtain rfl := hplaceholder _ rfl
  let parts : List Json := [.number (.int 6), .number (.int 0), .number (.int (-9007199254740992)),
    .string "dev"]
  have htext : (Json.object [("version", .list parts)]).text =
    "\x7b\"version\":[6,0,-9007199254740992,\"dev\"]\x7d" := by decide +kernel
  have hinforms : reply.Informs ⟨parts⟩ :=
    ⟨_, rfl, htext ▸ Json.Reader.decode_reads (ServerInfo.reads (by decide) (by decide) (by decide))⟩
  obtain ⟨version, -, hresponse, hexact⟩ := (hanswered (fun _ => .ok reply) reply rfl).told _ _ _ _
    (.inl (by decide)) hinforms ⟨_, rfl⟩
  have hversion := hexact 6 0 (-9007199254740992) (.int _) (.int _) (.int _) (by decide) (by decide)
    (by decide)
  have hv : version = "v6.0.-9007199254740992" := by
    rw [hversion]
    decide
  exact ⟨url, hu, hcalls, hv ▸ hresponse⟩

end Gateway

end RestGateway
