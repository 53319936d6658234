import PurgeGateway.Text.Quoted

/-!
# Credentials

A client of the invalidation API signs its requests with three secrets that belong to one host.

## Main definitions

* `Credentials`: the host and its secrets.
* `Credentials.diagnostic`: how credentials are shown, without the secrets.
-/

namespace PurgeGateway

/-- The host of the invalidation API and the secrets of a client. -/
structure Credentials where
  host : String := ""
  clientSecret : String := ""
  clientToken : String := ""
  accessToken : String := ""
  deriving DecidableEq, Repr, Inhabited

/-- How credentials are shown in diagnostics: the secrets are left out. -/
def Credentials.diagnostic (c : Credentials) : String :=
  "EdgeCredentials \x7b host: " ++ Text.quote c.host ++ ", .. \x7d"

end PurgeGateway
