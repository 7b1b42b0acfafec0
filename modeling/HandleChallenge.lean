import HandleChallenge.Bytes.Lemmas
import HandleChallenge.Credential
import HandleChallenge.Gateway.Layer
import HandleChallenge.Header.Merge
import HandleChallenge.Header.Password
import HandleChallenge.Json.Entity
import HandleChallenge.KeySource.Delegated
import HandleChallenge.KeySource.Local
import HandleChallenge.Number.Lemmas
import HandleChallenge.ServerSigner
import HandleChallenge.Proofs.Authentication.HonestClient
import HandleChallenge.Proofs.Authentication.Isolation
import HandleChallenge.Proofs.Authentication.Outcomes
import HandleChallenge.Proofs.Authentication.Password
import HandleChallenge.Proofs.Gateway.ChallengeHeader
import HandleChallenge.Proofs.Gateway.Login
import HandleChallenge.Proofs.Gateway.Response
import HandleChallenge.Proofs.Gateway.Transport
import HandleChallenge.Proofs.Header.Cursor
import HandleChallenge.Proofs.Header.Gaps
import HandleChallenge.Proofs.KeySource.Delegated
import HandleChallenge.Proofs.PublicKey
import HandleChallenge.Proofs.Response
import HandleChallenge.Proofs.Session.Eviction
import HandleChallenge.Proofs.Session.InUse
import HandleChallenge.Proofs.Verification.KeyOrder
import HandleChallenge.Proofs.Secret.Envelope
import HandleChallenge.Proofs.Secret.Payload
import HandleChallenge.Proofs.Authentication.ClaimChecks
import HandleChallenge.Proofs.Authentication.CredentialHeader
import HandleChallenge.Proofs.Authentication.Consultation
import HandleChallenge.Proofs.Bytes.Message
import HandleChallenge.Proofs.Config.Duration
import HandleChallenge.Proofs.Resolution.History
import HandleChallenge.Proofs.Json.RoundTrip
import HandleChallenge.Proofs.Config.Policy
import HandleChallenge.Proofs.Bytes.Cursor
import HandleChallenge.Proofs.Gateway.SessionCookie
import HandleChallenge.Proofs.Header.Scheme
