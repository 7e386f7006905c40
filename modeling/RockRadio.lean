import RockRadio.Library.EventSystem
import RockRadio.Library.History
import RockRadio.Library.LastWrite
import RockRadio.Library.Deck
import RockRadio.Library.Schedule
import RockRadio.Library.Dictionary
import RockRadio.Library.PercentEncoding
import RockRadio.Library.QueryString
import RockRadio.Library.SplitOn
import RockRadio.Library.Regex
import RockRadio.Firestore
import RockRadio.AppConstants
import RockRadio.Platform
import RockRadio.Network.SwiftyJSON
import RockRadio.Network.Song
import RockRadio.Network.SongArchive
import RockRadio.FRadioPlayer.Basic
import RockRadio.FRadioPlayer.Delegate
import RockRadio.FRadioPlayer.Settled
import RockRadio.MainViewController.NowPlaying
import RockRadio.MainViewController.Playback
import RockRadio.MainViewController.PlayButton
import RockRadio.MainViewController.Artwork
import RockRadio.MainViewController.Mirror
import RockRadio.MainViewController.Ads
import RockRadio.MainViewController.AdRotation
import RockRadio.SideMenuController.Rows
import RockRadio.SideMenuController.Cells
import RockRadio.SideMenuController.MailLinks
import RockRadio.SideMenuController.Menu
import RockRadio.SideMenuController.Table
import RockRadio.SideMenuController.Session
import RockRadio.SideMenuController.Configuration
import RockRadio.PushNotifications
import RockRadio.App.System
import RockRadio.App.Stream
import RockRadio.App.Traps
import RockRadio.FRadioPlayer.Device
import RockRadio.MainViewController.OnDevice
import RockRadio.SDWebImage.Basic
import RockRadio.SDWebImage.Manager
import RockRadio.SDWebImage.Views
import RockRadio.SDWebImage.InFlight
import RockRadio.SDWebImage.Answers
import RockRadio.MainViewController.AdPicture
import RockRadio.FRadioPlayer.Metadata
import RockRadio.FRadioPlayer.FRadioAPI
import RockRadio.App.Labels
import RockRadio.LGSideMenuController.Basic
import RockRadio.LGSideMenuController.Notifications
import RockRadio.LGSideMenuController.Settled
import RockRadio.LGSideMenuController.Views
import RockRadio.LGSideMenuController.Heading
import RockRadio.App.Drawer
