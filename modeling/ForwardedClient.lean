import ForwardedClient.Journal.Sinks
import ForwardedClient.Main
import ForwardedClient.Service.Whoami
import ForwardedClient.Proofs.Request.Snapshot
import ForwardedClient.Proofs.Request.View
import ForwardedClient.Proofs.Trust.Walk
import ForwardedClient.Proofs.Middleware.Preparation
import ForwardedClient.Proofs.Middleware.Restoration
import ForwardedClient.Proofs.Chain.CommaList
import ForwardedClient.Proofs.Forwarded.DirectiveMap
import ForwardedClient.Proofs.Middleware.Resolution
import ForwardedClient.Proofs.Middleware.ForgedPrefix
import ForwardedClient.Proofs.Address.HostLiteral
import ForwardedClient.Proofs.Request.Header
import ForwardedClient.Proofs.Request.ServerName
import ForwardedClient.Proofs.Forwarded.Latin
import ForwardedClient.Proofs.Middleware.ServerClaims
import ForwardedClient.Proofs.Middleware.ShownServer
import ForwardedClient.Proofs.Middleware.ForgedClaims
import ForwardedClient.Proofs.Request.Refusal
import ForwardedClient.Proofs.Middleware.FailedCall
import ForwardedClient.Proofs.Middleware.Progress
import ForwardedClient.Proofs.Middleware.Rewriting
import ForwardedClient.Proofs.Middleware.SeparateRewriting
import ForwardedClient.Proofs.Address.Ipv6
import ForwardedClient.Proofs.Forwarded.Node
import ForwardedClient.Proofs.Forwarded.Pair
import ForwardedClient.Proofs.Forwarded.RoundTrip
import ForwardedClient.Proofs.Middleware.StandardRewriting
import ForwardedClient.Proofs.Forwarded.Respelling
import ForwardedClient.Proofs.Forwarded.Stability
import ForwardedClient.Proofs.Middleware.SeparatePrecedence
import ForwardedClient.Proofs.Forwarded.Hop
import ForwardedClient.Proofs.Middleware.Agreement
import ForwardedClient.Proofs.Middleware.Dialects
import ForwardedClient.Proofs.Forwarded.Occurrences
import ForwardedClient.Proofs.Forwarded.AuditTrail
import ForwardedClient.Proofs.Middleware.Replay
import ForwardedClient.Proofs.Request.Reentry
import ForwardedClient.Proofs.Middleware.Stacking
import ForwardedClient.Proofs.Forwarded.NodeIdentity
import ForwardedClient.Proofs.Middleware.ForwardedMark
import ForwardedClient.Proofs.Middleware.HostLookup
import ForwardedClient.Proofs.Request.Undoing
import ForwardedClient.Proofs.Request.ServerOverride
import ForwardedClient.Proofs.Forwarded.Omission
import ForwardedClient.Proofs.Middleware.RejectedClaims
import ForwardedClient.Proofs.Address.Grammar
import ForwardedClient.Proofs.Forwarded.Collection
import ForwardedClient.Proofs.Middleware.UnmanagedHeaders
import ForwardedClient.Proofs.Trust.PrivateBlocks
import ForwardedClient.Proofs.Journal.LineSize
import ForwardedClient.Proofs.Journal.LineValues
import ForwardedClient.Proofs.CommandLine.PatternOption
import ForwardedClient.Proofs.Settings.Override
import ForwardedClient.Proofs.Forwarded.Cutting
import ForwardedClient.Proofs.Address.Expressions
import ForwardedClient.Proofs.Chain.Separator
