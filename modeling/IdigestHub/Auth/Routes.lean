import IdigestHub.Auth.Contexts
import IdigestHub.Foundation.Ascii

/-! The endpoints with a method that may change something, and those of the library; which
request each of them serves, and how it authenticates. -/

set_option autoImplicit false

namespace IdigestHub.Auth

open Foundation

/-- How a handler authenticates: through `require_auth`, through `optional_auth`, by a call of
`resolve_auth` of its own, or without looking at the session. -/
inductive Guard where
  | signedIn
  | optional
  | consent
  | anyone
  deriving DecidableEq

structure Route where
  method : Method
  path : String
  guard : Guard
  deriving DecidableEq

def segments (path : List Char) : List (List Char) := path.splitOn '/'

def segmentMatches (template segment : List Char) : Bool :=
  if template.head? = some '{' then !segment.isEmpty else template == segment

def segmentsMatch : List (List Char) → List (List Char) → Bool
  | [], [] => true
  | template :: templates, segment :: segments => segmentMatches template segment && segmentsMatch templates segments
  | _, _ => false

def Route.serves (route : Route) (method : Method) (path : List Char) : Bool :=
  route.method == method && segmentsMatch (segments route.path.toList) (segments path)

def oauthRoutes : List Route := [
  ⟨.post, "/oauth/register", .anyone⟩,
  ⟨.post, "/oauth/authorize", .consent⟩,
  ⟨.post, "/oauth/sso", .anyone⟩,
  ⟨.post, "/oauth/login", .anyone⟩,
  ⟨.post, "/oauth/token", .anyone⟩]

def authRoutes : List Route := [
  ⟨.patch, "/api/v1/me", .signedIn⟩,
  ⟨.post, "/api/v1/me/account-delete", .signedIn⟩,
  ⟨.post, "/api/v1/auth/mfa/verify", .anyone⟩,
  ⟨.post, "/api/v1/auth/mfa/recover", .anyone⟩,
  ⟨.post, "/api/v1/auth/mfa/setup/start", .signedIn⟩,
  ⟨.post, "/api/v1/auth/agreement/accept", .signedIn⟩,
  ⟨.post, "/api/v1/auth/mfa/setup/confirm", .signedIn⟩,
  ⟨.post, "/api/v1/auth/mfa/disable", .signedIn⟩,
  ⟨.post, "/api/v1/auth/login", .anyone⟩,
  ⟨.post, "/api/v1/auth/logout", .optional⟩,
  ⟨.post, "/api/v1/auth/password/change", .signedIn⟩,
  ⟨.post, "/api/v1/auth/password/reset/request", .anyone⟩,
  ⟨.post, "/api/v1/auth/password/reset/confirm", .anyone⟩,
  ⟨.post, "/api/v1/setup", .anyone⟩,
  ⟨.post, "/api/v1/auth/signup", .anyone⟩,
  ⟨.post, "/api/v1/me/telegram/link", .signedIn⟩,
  ⟨.delete, "/api/v1/me/telegram", .signedIn⟩,
  ⟨.post, "/api/v1/auth/tokens", .signedIn⟩,
  ⟨.delete, "/api/v1/auth/tokens/{token_id}", .signedIn⟩]

def instanceRoutes : List Route := [
  ⟨.post, "/api/v1/impersonate", .signedIn⟩,
  ⟨.delete, "/api/v1/impersonate", .signedIn⟩,
  ⟨.post, "/api/v1/orgs/{org_id}/wallet", .signedIn⟩,
  ⟨.post, "/api/v1/orgs", .signedIn⟩,
  ⟨.post, "/api/v1/orgs/{org_id}/delete", .signedIn⟩,
  ⟨.post, "/api/v1/orgs/{org_id}/hide", .signedIn⟩,
  ⟨.post, "/api/v1/orgs/{org_id}/unhide", .signedIn⟩,
  ⟨.post, "/api/v1/orgs/{org_id}/users/{user_id}/reset-password", .signedIn⟩,
  ⟨.post, "/api/v1/orgs/{org_id}/users/{user_id}/reset-mfa", .signedIn⟩,
  ⟨.patch, "/api/v1/orgs/{org_id}/users/{user_id}", .signedIn⟩,
  ⟨.patch, "/api/v1/orgs/{org_id}/tariff", .signedIn⟩,
  ⟨.post, "/api/v1/instance/settings/agreement/preview", .signedIn⟩,
  ⟨.patch, "/api/v1/instance/settings", .signedIn⟩,
  ⟨.post, "/api/v1/instance/telegram/test-connection", .signedIn⟩,
  ⟨.post, "/api/v1/instance/smtp/test-connection", .signedIn⟩,
  ⟨.post, "/api/v1/instance/smtp/test-send", .signedIn⟩,
  ⟨.post, "/api/v1/tariffs", .signedIn⟩,
  ⟨.post, "/api/v1/tariffs/{tariff_id}/clone", .signedIn⟩,
  ⟨.patch, "/api/v1/tariffs/{tariff_id}", .signedIn⟩,
  ⟨.post, "/api/v1/tariffs/{tariff_id}/archive", .signedIn⟩,
  ⟨.post, "/api/v1/tariffs/{tariff_id}/unarchive", .signedIn⟩,
  ⟨.delete, "/api/v1/tariffs/{tariff_id}", .signedIn⟩,
  ⟨.post, "/api/v1/workers/probe", .signedIn⟩,
  ⟨.post, "/api/v1/workers", .signedIn⟩,
  ⟨.patch, "/api/v1/workers/{worker_id}", .signedIn⟩,
  ⟨.post, "/api/v1/workers/{worker_id}/change-impact", .signedIn⟩,
  ⟨.delete, "/api/v1/workers/{worker_id}", .signedIn⟩,
  ⟨.post, "/api/v1/instance/crypto/deks", .signedIn⟩,
  ⟨.post, "/api/v1/instance/crypto/reencrypt", .signedIn⟩,
  ⟨.post, "/api/v1/instance/crypto/reencrypt/{job_id}/cancel", .signedIn⟩]

def orgRoutes : List Route := [
  ⟨.patch, "/api/v1/org", .signedIn⟩,
  ⟨.patch, "/api/v1/org/tariff", .signedIn⟩,
  ⟨.put, "/api/v1/org/capture/jitsi", .signedIn⟩,
  ⟨.patch, "/api/v1/org/settings", .signedIn⟩,
  ⟨.delete, "/api/v1/org/public-links/{link_id}", .signedIn⟩,
  ⟨.patch, "/api/v1/org/sso", .signedIn⟩,
  ⟨.post, "/api/v1/org/users", .signedIn⟩,
  ⟨.patch, "/api/v1/org/users/{user_id}", .signedIn⟩,
  ⟨.post, "/api/v1/org/users/{user_id}/disable", .signedIn⟩,
  ⟨.post, "/api/v1/org/users/{user_id}/enable", .signedIn⟩,
  ⟨.post, "/api/v1/org/users/{user_id}/reset-password", .signedIn⟩,
  ⟨.post, "/api/v1/org/users/{user_id}/reset-mfa", .signedIn⟩,
  ⟨.post, "/api/v1/org/users/{user_id}/offboard", .signedIn⟩]

def libraryRoutes : List Route := [
  ⟨.get, "/api/v1/me/backup", .signedIn⟩,
  ⟨.post, "/api/v1/me/backup/restore", .signedIn⟩,
  ⟨.post, "/api/v1/audios", .signedIn⟩,
  ⟨.get, "/api/v1/audios", .signedIn⟩,
  ⟨.get, "/api/v1/audios/{audio_id}", .signedIn⟩,
  ⟨.get, "/api/v1/audios/{audio_id}/file", .signedIn⟩,
  ⟨.post, "/api/v1/audios/{audio_id}/hide", .signedIn⟩,
  ⟨.post, "/api/v1/audios/{audio_id}/unhide", .signedIn⟩,
  ⟨.get, "/api/v1/audios/{audio_id}/delete-impact", .signedIn⟩,
  ⟨.delete, "/api/v1/audios/{audio_id}", .signedIn⟩,
  ⟨.get, "/api/v1/capture/platforms", .signedIn⟩,
  ⟨.get, "/api/v1/import/platforms", .signedIn⟩,
  ⟨.get, "/api/v1/shares", .signedIn⟩,
  ⟨.post, "/api/v1/shares", .signedIn⟩,
  ⟨.delete, "/api/v1/shares/{share_id}", .signedIn⟩,
  ⟨.get, "/api/v1/summaries", .signedIn⟩,
  ⟨.get, "/api/v1/summaries/{summary_id}", .signedIn⟩,
  ⟨.get, "/api/v1/summaries/{summary_id}/export", .signedIn⟩,
  ⟨.post, "/api/v1/summaries/{summary_id}/hide", .signedIn⟩,
  ⟨.post, "/api/v1/summaries/{summary_id}/unhide", .signedIn⟩,
  ⟨.patch, "/api/v1/summaries/{summary_id}", .signedIn⟩,
  ⟨.get, "/api/v1/summaries/{summary_id}/delete-impact", .signedIn⟩,
  ⟨.delete, "/api/v1/summaries/{summary_id}", .signedIn⟩,
  ⟨.get, "/api/v1/summaries/{summary_id}/public-link", .signedIn⟩,
  ⟨.post, "/api/v1/summaries/{summary_id}/public-link", .signedIn⟩,
  ⟨.delete, "/api/v1/summaries/{summary_id}/public-link", .signedIn⟩,
  ⟨.get, "/api/v1/org/public-links", .signedIn⟩,
  ⟨.get, "/api/v1/transcripts", .signedIn⟩,
  ⟨.get, "/api/v1/transcripts/{transcript_id}", .signedIn⟩,
  ⟨.get, "/api/v1/transcripts/{transcript_id}/export", .signedIn⟩,
  ⟨.post, "/api/v1/transcripts/{transcript_id}/hide", .signedIn⟩,
  ⟨.post, "/api/v1/transcripts/{transcript_id}/unhide", .signedIn⟩,
  ⟨.get, "/api/v1/transcripts/{transcript_id}/delete-impact", .signedIn⟩,
  ⟨.delete, "/api/v1/transcripts/{transcript_id}", .signedIn⟩,
  ⟨.patch, "/api/v1/transcripts/{transcript_id}", .signedIn⟩,
  ⟨.get, "/api/v1/tags", .signedIn⟩,
  ⟨.patch, "/api/v1/tags/{tag_id}", .signedIn⟩,
  ⟨.delete, "/api/v1/tags/{tag_id}", .signedIn⟩,
  ⟨.put, "/api/v1/object-tags", .signedIn⟩,
  ⟨.post, "/api/v1/tasks/transcribe", .signedIn⟩,
  ⟨.post, "/api/v1/tasks/import", .signedIn⟩,
  ⟨.post, "/api/v1/tasks/capture", .signedIn⟩,
  ⟨.post, "/api/v1/tasks/summarize", .signedIn⟩,
  ⟨.post, "/api/v1/tasks/purge", .signedIn⟩,
  ⟨.get, "/api/v1/tasks", .signedIn⟩,
  ⟨.get, "/api/v1/tasks/{task_id}", .signedIn⟩,
  ⟨.post, "/api/v1/tasks/{task_id}/stop", .signedIn⟩,
  ⟨.post, "/api/v1/tasks/{task_id}/retry", .signedIn⟩,
  ⟨.delete, "/api/v1/tasks/{task_id}", .signedIn⟩,
  ⟨.get, "/api/v1/skills", .signedIn⟩,
  ⟨.post, "/api/v1/skills/self", .signedIn⟩,
  ⟨.patch, "/api/v1/skills/self/{skill_id}", .signedIn⟩,
  ⟨.delete, "/api/v1/skills/self/{skill_id}", .signedIn⟩,
  ⟨.post, "/api/v1/org/skills", .signedIn⟩,
  ⟨.patch, "/api/v1/org/skills/{skill_id}", .signedIn⟩,
  ⟨.delete, "/api/v1/org/skills/{skill_id}", .signedIn⟩,
  ⟨.get, "/api/v1/skills/{skill_id}/export", .signedIn⟩,
  ⟨.post, "/api/v1/skills/{skill_id}/copy", .signedIn⟩,
  ⟨.get, "/api/v1/skills/base", .signedIn⟩,
  ⟨.post, "/api/v1/skills/base", .signedIn⟩,
  ⟨.patch, "/api/v1/skills/base/{skill_id}", .signedIn⟩,
  ⟨.delete, "/api/v1/skills/base/{skill_id}", .signedIn⟩]

def publicRoutes : List Route := [
  ⟨.post, "/api/v1/public/summary/{token}/unlock", .anyone⟩,
  ⟨.post, "/api/v1/integrations/telegram/webhook", .anyone⟩]

def mcpRoutes : List Route := [
  ⟨.post, "/mcp", .anyone⟩,
  ⟨.delete, "/mcp", .anyone⟩,
  ⟨.post, "/mcp/", .anyone⟩,
  ⟨.delete, "/mcp/", .anyone⟩]

def routes : List Route :=
  oauthRoutes ++ authRoutes ++ instanceRoutes ++ orgRoutes ++ libraryRoutes ++ publicRoutes ++ mcpRoutes

section Matching

theorem segmentsMatch_take {templates segments rest : List (List Char)}
    (matched : segmentsMatch templates (segments ++ rest) = true) :
    segmentsMatch (templates.take segments.length) segments = true := by
  induction segments generalizing templates with
  | nil => rfl
  | cons segment segments ih =>
    cases templates with
    | nil => contradiction
    | cons template templates =>
      rw [List.cons_append, segmentsMatch, Bool.and_eq_true] at matched
      rw [List.length_cons, List.take_succ_cons, segmentsMatch, matched.1, ih matched.2]
      rfl

theorem segmentsMatch_last {templates segments : List (List Char)} {segment : List Char}
    (matched : segmentsMatch templates (segments ++ [segment]) = true) :
    ∃ template, templates.getLast? = some template ∧ segmentMatches template segment = true := by
  induction segments generalizing templates with
  | nil =>
    cases templates with
    | nil => contradiction
    | cons template templates =>
      rw [List.nil_append, segmentsMatch, Bool.and_eq_true] at matched
      cases templates with
      | nil => exact ⟨template, rfl, matched.1⟩
      | cons => simp [segmentsMatch] at matched
  | cons first segments ih =>
    cases templates with
    | nil => contradiction
    | cons template templates =>
      rw [List.cons_append, segmentsMatch, Bool.and_eq_true] at matched
      obtain ⟨last, at_end, fits⟩ := ih matched.2
      exact ⟨last, by rw [List.getLast?_cons, at_end]; rfl, fits⟩

theorem Route.serves_prefix {route : Route} {method : Method} {pre rest : List Char}
    (serves : route.serves method (pre ++ '/' :: rest) = true) :
    segmentsMatch ((segments route.path.toList).take (segments pre).length) (segments pre) = true := by
  rw [Route.serves, Bool.and_eq_true] at serves
  have matched := serves.2
  rw [segments, segments, List.splitOn_append_cons_self] at matched
  exact segmentsMatch_take matched

theorem Route.serves_normal {route : Route} {method : Method} {path : List Char}
    (closed : (segments route.path.toList).getLast?.all (fun last => !last.isEmpty) = true)
    (serves : route.serves method path = true) : normalPath path = path := by
  rw [Route.serves, Bool.and_eq_true] at serves
  have open_end : ∀ init, path ≠ init ++ ['/'] := by
    rintro init rfl
    have split : segments (init ++ ['/']) = segments init ++ [[]] := List.splitOn_append_cons_self init []
    rw [split] at serves
    obtain ⟨last, at_end, fits⟩ := segmentsMatch_last serves.2
    rw [at_end] at closed
    cases last with
    | nil => contradiction
    | cons c rest => by_cases parameter : c = '{' <;> simp [segmentMatches, parameter] at fits
  have kept : rstripSlash path = path := by
    rcases List.eq_nil_or_concat path with rfl | ⟨init, c, rfl⟩
    · rfl
    · have not_slash : c ≠ '/' := fun same => open_end init (by rw [same, List.concat_eq_append])
      simp [rstripSlash, not_slash]
  have nonempty : path ≠ [] := by
    rintro rfl
    obtain ⟨last, at_end, fits⟩ := @segmentsMatch_last _ [] _ serves.2
    rw [at_end] at closed
    cases last with
    | nil => contradiction
    | cons c rest => by_cases parameter : c = '{' <;> simp [segmentMatches, parameter] at fits
  rw [normalPath, kept, if_neg nonempty]

end Matching

end IdigestHub.Auth
