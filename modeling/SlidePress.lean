import SlidePress.Main
import SlidePress.Proofs.BodyVisibility
import SlidePress.Proofs.ConversionSizes
import SlidePress.Proofs.DeckCharacters
import SlidePress.Proofs.DeckFiles
import SlidePress.Proofs.DeckHistory
import SlidePress.Proofs.DeckProgress
import SlidePress.Proofs.DeckSlides
import SlidePress.Proofs.DividerKeywords
import SlidePress.Proofs.DraftCode
import SlidePress.Proofs.DraftHeadings
import SlidePress.Proofs.DraftTitles
import SlidePress.Proofs.DraftWhitespace
import SlidePress.Proofs.DrawingsFound
import SlidePress.Proofs.GlobPatterns
import SlidePress.Proofs.InstallationRuns
import SlidePress.Proofs.PictureEndings
import SlidePress.Proofs.PicturesKept
import SlidePress.Proofs.PreferencesReading
import SlidePress.Proofs.ProgramRuns
import SlidePress.Proofs.ReleaseEntries
import SlidePress.Proofs.SlideColors
import SlidePress.Proofs.SlideFidelity
import SlidePress.Proofs.SlideMeasures
import SlidePress.Proofs.SlideStructure
import SlidePress.Proofs.SlideTexts
import SlidePress.Proofs.TalkReading
import SlidePress.Proofs.ToolArguments
