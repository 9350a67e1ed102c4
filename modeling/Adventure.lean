import Adventure.Json.Schema
import Adventure.Main
import Adventure.World.Facts
import Adventure.World.Vocabulary
import Adventure.Proofs.Arenas
import Adventure.Proofs.Views
import Adventure.Proofs.ActionGraph
import Adventure.Proofs.Beginnings
import Adventure.Proofs.Cascades
import Adventure.Proofs.Captures
import Adventure.Proofs.Commands
import Adventure.Proofs.CycleCheck
import Adventure.Proofs.Links
import Adventure.Proofs.SafeActs
import Adventure.Proofs.SafeCommands
import Adventure.Proofs.SafeSessions
import Adventure.Proofs.PrintedRon
import Adventure.Proofs.RonForms
import Adventure.Proofs.Snapshots
import Adventure.Proofs.TemplateRoundTrip
import Adventure.Proofs.LineReading
import Adventure.Proofs.CachedCommands
import Adventure.Proofs.CustomPhrasings
import Adventure.Proofs.Designs
import Adventure.Proofs.StoreProtocol
import Adventure.Proofs.Outputs
import Adventure.Proofs.Acceptance
import Adventure.Proofs.ClosedConversations
import Adventure.Proofs.Talks
import Adventure.Proofs.NormalLines
import Adventure.Proofs.IdleCommands
import Adventure.Proofs.JsonForms
import Adventure.Proofs.PlayableTemplates
import Adventure.Proofs.Restorations
import Adventure.Proofs.GraphFaults
import Adventure.Proofs.DisabledParts
import Adventure.Proofs.LateChecks
import Adventure.Proofs.CycleReports
import Adventure.Proofs.Attempts
import Adventure.Proofs.Pairings
import Adventure.Proofs.AuthoredWorlds
import Adventure.Proofs.Repetitions
import Adventure.Proofs.CacheCounts
import Adventure.Proofs.GameCaches
import Adventure.Proofs.Substitutions
import Adventure.Proofs.NormalForms
import Adventure.Proofs.FaultPositions
import Adventure.Proofs.JoinedIdentifiers
