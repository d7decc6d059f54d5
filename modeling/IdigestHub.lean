import IdigestHub.Crypto.Rotation
import IdigestHub.Billing.Wallet
import IdigestHub.System.Links
import IdigestHub.OAuth.Redemption
import IdigestHub.RateLimiting.Cache
import IdigestHub.RateLimiting.Stores
import IdigestHub.Sessions.Agreement
import IdigestHub.Sessions.Revocation
import IdigestHub.Tasks.Remediation
import IdigestHub.Crypto.Writers
import IdigestHub.Crypto.Startup
import IdigestHub.System.Recordings
import IdigestHub.System.Cancels
import IdigestHub.System.Isolation
import IdigestHub.Auth.Logins
import IdigestHub.Auth.SecondFactor
import IdigestHub.Auth.CrossSite
import IdigestHub.Auth.Delegation
import IdigestHub.Auth.Credentials
import IdigestHub.Auth.OneTime
import IdigestHub.Offboarding.Transfer
import IdigestHub.Offboarding.LastAdmin
import IdigestHub.Library.Pairing
import IdigestHub.Telegram.Transport
import IdigestHub.System.Finalizing
import IdigestHub.System.Transients
import IdigestHub.System.Stopping
import IdigestHub.System.Retries
import IdigestHub.System.Notices
import IdigestHub.Legal.Documents
import IdigestHub.Library.PublicLinks
import IdigestHub.Library.Tags
import IdigestHub.Library.Visibility
import IdigestHub.RateLimiting.Writes
import IdigestHub.Tasks.Summarize
import IdigestHub.Backup.Tones
import IdigestHub.Backup.RoundTrip
import IdigestHub.Storage.Gc
import IdigestHub.Settings.Effective
import IdigestHub.Ingest.UrlChecks
import IdigestHub.Library.SourceGroups
import IdigestHub.Library.Badges
import IdigestHub.Storage.Uploads
import IdigestHub.Dispatcher.Readiness
import IdigestHub.Legal.Normalizing
import IdigestHub.Storage.Ranges
import IdigestHub.Library.UnlockCookies
import IdigestHub.RateLimiting.ClientAddress
import IdigestHub.Library.PlainPages
import IdigestHub.Capture.JitsiHosts
import IdigestHub.Billing.Entries
import IdigestHub.Library.Titles
import IdigestHub.Backup.Totality
import IdigestHub.Tasks.Removals
import IdigestHub.System.Rebinding
import IdigestHub.System.Resuming
import IdigestHub.Dispatcher.Rounds
import IdigestHub.System.Timeouts
import IdigestHub.Billing.Ledgers
import IdigestHub.Billing.Tariffs
import IdigestHub.Audit.Export
import IdigestHub.Tasks.History
import IdigestHub.OAuth.Consents
