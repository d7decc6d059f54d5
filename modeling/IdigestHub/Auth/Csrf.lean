import IdigestHub.Auth.Lockouts

/-! The check of the CSRF token, and the routes that it covers. -/

set_option autoImplicit false

namespace IdigestHub.Auth

open Foundation

def unsafeMethods : List Method := [.post, .put, .patch, .delete]

def csrfExemptPaths : List String := [
  "/api/v1/setup",
  "/api/v1/auth/signup",
  "/api/v1/auth/login",
  "/api/v1/auth/mfa/verify",
  "/api/v1/auth/mfa/recover",
  "/api/v1/auth/password/reset/request",
  "/api/v1/auth/password/reset/confirm",
  "/api/v1/integrations/telegram/webhook",
  "/oauth/register",
  "/oauth/token",
  "/oauth/login",
  "/oauth/sso",
  "/oauth/authorize"]

def csrfExemptPrefixes : List String := ["/api/v1/public/summary/"]

def csrfRequired (request : Request) : Bool :=
  let path := normalPath request.path
  if !unsafeMethods.contains request.method then false
  else if !"/api/v1".toList.isPrefixOf path then false
  else if isBearer request.authorization then false
  else if csrfExemptPaths.any fun text => text.toList == path then false
  else if csrfExemptPrefixes.any fun text => text.toList.isPrefixOf path then false
  else request.sessionCookie.any (· != "")

def enforceCsrf (request : Request) : Bool :=
  if !csrfRequired request then true
  else
    let cookieToken := request.csrfCookie.getD ""
    let headerToken := request.csrfHeader.getD ""
    cookieToken != "" && headerToken != "" && cookieToken == headerToken

def Route.covered (route : Route) : Bool :=
  let parts := segments (Text.asciiChars route.path)
  Text.isAscii route.path && parts.getLast?.all (fun last => !last.isEmpty) &&
    parts.take 3 == segments (Text.asciiChars "/api/v1") &&
    (csrfExemptPaths.all fun text => Text.isAscii text && !segmentsMatch parts (segments (Text.asciiChars text))) &&
    !segmentsMatch (parts.take 5) (segments (Text.asciiChars "/api/v1/public/summary"))

theorem routes_covered : ∀ route ∈ routes, route.guard = .signedIn ∨ route.guard = .optional → route.covered = true := by
  decide +kernel

end IdigestHub.Auth
